import FoliumApp.PathTree
import Mathlib.Tactic

/-!
# Values of the Dart runtime

The app is written before null safety: every reference may be null, a failed
dynamic cast and a member access on null are exceptions, and text is measured
in UTF-16 code units.  This file fixes that reading once, together with the
calendar times and the anchored pattern matching the forms use.
-/

namespace FoliumApp

open PathTree

inductive DartError where
  | noSuchMethod
  | typeError
  | remote
  deriving DecidableEq, Repr

theorem except_bind_ok {first : Except DartError α}
    {next : α → Except DartError β} {value : β}
    (hbind : (first >>= next) = .ok value) :
    ∃ middle, first = .ok middle ∧ next middle = .ok value := by
  cases first with
  | error error => cases hbind
  | ok middle => exact ⟨middle, rfl, hbind⟩

theorem except_bind_isOk_iff {first : Except DartError α}
    {next : α → Except DartError β} :
    (∃ value, (first >>= next) = .ok value) ↔
      ∃ middle, first = .ok middle ∧
        ∃ value, next middle = .ok value := by
  constructor
  · intro hok
    obtain ⟨value, hvalue⟩ := hok
    obtain ⟨middle, hfirst, hnext⟩ := except_bind_ok hvalue
    exact ⟨middle, hfirst, value, hnext⟩
  · intro hok
    obtain ⟨middle, hfirst, hnext⟩ := hok
    rw [hfirst]
    exact hnext

theorem except_ok_bind (value : α) (next : α → Except DartError β) :
    (Except.ok value >>= next) = next value := rfl

theorem except_map_bind (first : Except DartError α)
    (next : α → Except DartError β) (change : β → γ) :
    (first >>= next).map change =
      first >>= fun value => (next value).map change := by
  cases first with
  | error error => rfl
  | ok value => rfl

theorem except_bind_map (first : Except DartError α) (change : α → β)
    (next : β → Except DartError γ) :
    first.map change >>= next = first >>= fun value => next (change value) := by
  cases first with
  | error error => rfl
  | ok value => rfl

/-- A member access; it raises on null. -/
def nonNull : Option α → Except DartError α
  | some value => .ok value
  | none => .error .noSuchMethod

/-- A nullable text in a string interpolation. -/
def interpolate : Option String → String
  | some text => text
  | none => "null"

/-! ## Dynamic values -/

def ofString : Option String → Json
  | some text => .str text
  | none => .null

def ofBool : Option Bool → Json
  | some value => .bool value
  | none => .null

def ofInt : Option ℤ → Json
  | some value => .int value
  | none => .null

def ofMap : Option (List (String × Json)) → Json
  | some fields => .obj fields
  | none => .null

def asString : Json → Except DartError (Option String)
  | .null => .ok none
  | .str text => .ok (some text)
  | _ => .error .typeError

def asBool : Json → Except DartError (Option Bool)
  | .null => .ok none
  | .bool value => .ok (some value)
  | _ => .error .typeError

def asInt : Json → Except DartError (Option ℤ)
  | .null => .ok none
  | .int value => .ok (some value)
  | _ => .error .typeError

def asMap : Json → Except DartError (Option (List (String × Json)))
  | .null => .ok none
  | .obj fields => .ok (some fields)
  | _ => .error .typeError

/-- A `Map<String, Object>`.  The maps the database hands over are of type
`Map<dynamic, dynamic>`, so of all it can hold only null passes. -/
def asStringMap : Json → Except DartError (Option (List (String × Json)))
  | .null => .ok none
  | _ => .error .typeError

@[simp] theorem prune_ofString (text : Option String) :
    (ofString text).prune = ofString text := by
  cases text <;> rfl

@[simp] theorem prune_ofBool (value : Option Bool) :
    (ofBool value).prune = ofBool value := by
  cases value <;> rfl

@[simp] theorem asString_ofString (text : Option String) :
    asString (ofString text) = .ok text := by
  cases text <;> rfl

@[simp] theorem asBool_ofBool (value : Option Bool) :
    asBool (ofBool value) = .ok value := by
  cases value <;> rfl

/-! ## Text -/

def whitespace (c : Char) : Bool :=
  (0x09 ≤ c.val && c.val ≤ 0x0D) || c.val = 0x20 || c.val = 0x85 ||
    c.val = 0xA0 || c.val = 0x1680 ||
    (0x2000 ≤ c.val && c.val ≤ 0x200A) || c.val = 0x2028 ||
    c.val = 0x2029 || c.val = 0x202F || c.val = 0x205F ||
    c.val = 0x3000 || c.val = 0xFEFF

/-- `String.trim`: white space is removed at both ends. -/
def trim (text : String) : List Char :=
  ((text.toList.dropWhile whitespace).reverse.dropWhile whitespace).reverse

/-- `String.length`: a character outside the basic plane counts twice. -/
def utf16Length (text : List Char) : ℕ :=
  (text.map fun c => if c.val ≤ 0xFFFF then 1 else 2).sum

/-- A pattern is a sequence of character classes, each for one character or
for one or more of them. -/
inductive PatternItem where
  | one (accepts : Char → Bool)
  | many (accepts : Char → Bool)

/-- Match a pattern from the start of a text, by backtracking; what follows
the match is not looked at. -/
def matchesFrom : List PatternItem → List Char → Bool
  | [], _ => true
  | _ :: _, [] => false
  | .one accepts :: items, c :: rest =>
      accepts c && matchesFrom items rest
  | .many accepts :: items, c :: rest =>
      accepts c &&
        (matchesFrom items rest || matchesFrom (.many accepts :: items) rest)

def isLetter (c : Char) : Bool :=
  ('a' ≤ c && c ≤ 'z') || ('A' ≤ c && c ≤ 'Z')

def isDigit (c : Char) : Bool :=
  '0' ≤ c && c ≤ '9'

/-! ## Calendar times -/

structure DateTime where
  year : ℕ
  month : ℕ
  day : ℕ
  hour : ℕ
  minute : ℕ
  second : ℕ
  millisecond : ℕ
  microsecond : ℕ
  deriving DecidableEq, Repr

def padded (width n : ℕ) : String :=
  String.ofList (List.replicate (width - (toString n).length) '0') ++
    toString n

/-- `DateTime.toString` of a local time. -/
def DateTime.toString (time : DateTime) : String :=
  (if time.year ≤ 9999 then padded 4 time.year
    else "+" ++ padded 6 time.year) ++
    "-" ++ padded 2 time.month ++ "-" ++ padded 2 time.day ++
    " " ++ padded 2 time.hour ++ ":" ++ padded 2 time.minute ++
    ":" ++ padded 2 time.second ++ "." ++ padded 3 time.millisecond ++
    (if time.microsecond = 0 then "" else padded 3 time.microsecond)

/-- Days before the first of March of year zero up to a civil date, counted
in years that begin in March. -/
def civilDays (year month day : ℤ) : ℤ :=
  let shifted := if month ≤ 2 then year - 1 else year
  let fromMarch := if month ≤ 2 then month + 9 else month - 3
  365 * shifted + shifted / 4 - shifted / 100 + shifted / 400 +
    (153 * fromMarch + 2) / 5 + day - 1

/-- Microseconds on one uniform scale; no daylight-saving shifts. -/
def DateTime.microseconds (time : DateTime) : ℤ :=
  ((((civilDays time.year time.month time.day * 24 + time.hour) * 60 +
    time.minute) * 60 + time.second) * 1000 + time.millisecond) * 1000 +
    time.microsecond

/-- `a.difference(b).inDays`: whole days, rounded towards zero. -/
def DateTime.differenceInDays (time other : DateTime) : ℤ :=
  (time.microseconds - other.microseconds).tdiv (24 * 3600 * 1000000)

end FoliumApp
