import EnvConcord.Document.Moment
import EnvConcord.Number.Shortest

/-!
# Values of documents

A document is a tree of null, booleans, numbers, texts, calendar values, octet
strings, lists, pairs, sets and mappings.  A mapping keeps the order of its keys;
keys may be any scalar, and keys of equal value are one key.
-/

namespace EnvConcord.Document

/-- A document value. -/
inductive Value
  | null
  | bool (value : Bool)
  | int (value : Int)
  | float (value : Binary64)
  | text (value : String)
  | moment (value : Moment)
  | octets (data : List Nat)
  | list (items : List Value)
  /-- A key with its value, as an item of a list. -/
  | pair (key value : Value)
  /-- Distinct scalars, each present as a key of its own. -/
  | set (items : List Value)
  | map (entries : List (Value × Value))
  deriving Repr, Inhabited

namespace Value

/-- The number of a value; true counts as one and false as zero. -/
def toNumber? : Value → Option Number
  | .bool b => some (.int (if b then 1 else 0))
  | .int n => some (.int n)
  | .float x => some (.float x)
  | _ => none

/-- Whether two scalars are the same key: numbers by value, moments by the point in time, texts
and the other scalars by what they hold. -/
def sameKey (a b : Value) : Bool :=
  match a.toNumber?, b.toNumber? with
  | some x, some y => x.same y
  | some _, none => false
  | none, some _ => false
  | none, none =>
      match a, b with
      | .null, .null => true
      | .text s, .text t => s == t
      | .moment s, .moment t => s.same t
      | .octets s, .octets t => s == t
      | _, _ => false

/-- Set the value of a key: a known key keeps its place and its spelling. -/
def insertEntry (key value : Value) : List (Value × Value) → List (Value × Value)
  | [] => [(key, value)]
  | entry :: rest =>
      if entry.1.sameKey key then (entry.1, value) :: rest
      else entry :: insertEntry key value rest

/-- The value under a text key. -/
def lookupText (entries : List (Value × Value)) (key : String) : Option Value :=
  (entries.find? fun entry =>
    match entry.1 with
    | .text s => s == key
    | _ => false).map Prod.snd

/-- The member of a mapping under a text key. -/
def get? : Value → String → Option Value
  | .map entries, key => lookupText entries key
  | _, _ => none

/-- A mapping with text keys. -/
def object (entries : List (String × Value)) : Value :=
  .map (entries.map fun entry => (.text entry.1, entry.2))

/-- A list of texts. -/
def texts (items : List String) : Value := .list (items.map .text)

/-- Whether a value counts as absent content: null, false, zero, and every empty
text, list or mapping. -/
def isEmptyLike : Value → Bool
  | .null => true
  | .bool b => !b
  | .int n => n == 0
  | .float x => x.isZero
  | .text s => s.isEmpty
  | .moment .. => false
  | .octets data => data.isEmpty
  | .list items => items.isEmpty
  | .pair .. => false
  | .set items => items.isEmpty
  | .map entries => entries.isEmpty

/-! ## Equality -/

mutual

/-- Whether two values are the same tree. -/
def beq : Value → Value → Bool
  | .null, .null => true
  | .bool a, .bool b => a == b
  | .int a, .int b => a == b
  | .float a, .float b => a == b
  | .text a, .text b => a == b
  | .moment a, .moment b => a == b
  | .octets a, .octets b => a == b
  | .list as, .list bs | .set as, .set bs => beqItems as bs
  | .pair a b, .pair c d => a.beq c && b.beq d
  | .map as, .map bs => beqEntries as bs
  | _, _ => false

/-- Whether two lists hold the same trees. -/
def beqItems : List Value → List Value → Bool
  | [], [] => true
  | a :: as, b :: bs => a.beq b && beqItems as bs
  | _, _ => false

/-- Whether two lists hold the same entries. -/
def beqEntries : List (Value × Value) → List (Value × Value) → Bool
  | [], [] => true
  | (a, b) :: as, (c, d) :: bs => a.beq c && b.beq d && beqEntries as bs
  | _, _ => false

end

mutual

theorem beq_eq_true_iff (a b : Value) : a.beq b = true ↔ a = b := by
  cases a <;> cases b <;>
    simp [beq, beqItems_eq_true_iff, beqEntries_eq_true_iff, beq_eq_true_iff]

theorem beqItems_eq_true_iff (as bs : List Value) : beqItems as bs = true ↔ as = bs := by
  match as, bs with
  | [], [] | [], _ :: _ | _ :: _, [] => simp [beqItems]
  | a :: as, b :: bs => simp [beqItems, beq_eq_true_iff a b, beqItems_eq_true_iff as bs]

theorem beqEntries_eq_true_iff (as bs : List (Value × Value)) :
    beqEntries as bs = true ↔ as = bs := by
  match as, bs with
  | [], [] | [], _ :: _ | _ :: _, [] => simp [beqEntries]
  | (a, b) :: as, (c, d) :: bs =>
      simp [beqEntries, beq_eq_true_iff a c, beq_eq_true_iff b d, beqEntries_eq_true_iff as bs,
        and_assoc]

end

instance : DecidableEq Value := fun a b => decidable_of_iff _ (beq_eq_true_iff a b)

end Value

end EnvConcord.Document
