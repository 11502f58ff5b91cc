import Mathlib.Data.List.Basic

namespace FlatJson

/-- The values of an object without nesting. -/
inductive Value
  | number (digits : List Char)
  | string (s : String)
  deriving DecidableEq

abbrev Field := String × Value

/-- The inside of a string literal, for texts without control characters. -/
def escape (cs : List Char) : List Char :=
  cs.flatMap fun c => if c = '"' ∨ c = '\\' then ['\\', c] else [c]

/-- Read up to the closing quote. -/
def unquote : List Char → Option (List Char × List Char)
  | [] => none
  | '"' :: rest => some ([], rest)
  | '\\' :: c :: rest => (unquote rest).map (Prod.map (c :: ·) id)
  | c :: rest => (unquote rest).map (Prod.map (c :: ·) id)

def Value.text : Value → List Char
  | number digits => digits
  | string s => '"' :: (escape s.toList ++ ['"'])

def Value.chars : Value → List Char
  | number digits => digits
  | string s => s.toList

/-- What may stand in a number. -/
def numeric (c : Char) : Bool :=
  c.isDigit || c = '-'

def readValue : List Char → Option (Value × List Char)
  | '"' :: rest => (unquote rest).map (Prod.map (fun cs => .string (String.ofList cs)) id)
  | text => some (.number (text.takeWhile numeric), text.dropWhile numeric)

def fieldText (f : Field) : List Char :=
  '"' :: (escape f.1.toList ++ '"' :: ':' :: f.2.text)

def fieldsText : List Field → List Char
  | [] => ['}']
  | [f] => fieldText f ++ ['}']
  | f :: fs => fieldText f ++ ',' :: fieldsText fs

def readFields : Nat → List Char → Option (List Field)
  | n + 1, '"' :: rest => do
    let (key, rest) ← unquote rest
    match rest with
    | ':' :: rest => do
      let (value, rest) ← readValue rest
      match rest with
      | ['}'] => some [(String.ofList key, value)]
      | ',' :: rest => do
        let fields ← readFields n rest
        return (String.ofList key, value) :: fields
      | _ => none
    | _ => none
  | _, _ => none

/-- `JSON.stringify` of an object without nesting. -/
def stringify (fields : List Field) : String :=
  String.ofList ('{' :: fieldsText fields)

/-- `JSON.parse` of such an object, if it has any field. -/
def parse (text : String) : Option (List Field) :=
  match text.toList with
  | '{' :: rest => readFields rest.length rest
  | _ => none

/-- The numbers are spelled as numbers. -/
def Value.Spelled : Value → Prop
  | number digits => ∀ c ∈ digits, numeric c = true
  | string _ => True

theorem unquote_plain {c : Char} (quote : c ≠ '"') (slash : c ≠ '\\') (rest : List Char) :
    unquote (c :: rest) = (unquote rest).map (Prod.map (c :: ·) id) := by
  rw [unquote]
  · exact quote
  · intro _ _ h
    exact absurd h slash

@[simp] theorem unquote_escape (cs rest : List Char) :
    unquote (escape cs ++ '"' :: rest) = some (cs, rest) := by
  induction cs with
  | nil => rfl
  | cons c cs ih =>
    rw [escape, List.flatMap_cons, List.append_assoc]
    rw [escape] at ih
    split
    · rw [List.cons_append, List.singleton_append, unquote, ih]
      rfl
    · rename_i plain
      rw [not_or] at plain
      rw [List.singleton_append, unquote_plain plain.1 plain.2, ih]
      rfl

/-- A value is read back if no number goes on behind it. -/
theorem readValue_text {v : Value} (spelled : v.Spelled) {c : Char} (ends : numeric c = false)
    (quote : c ≠ '"') (rest : List Char) :
    readValue (v.text ++ c :: rest) = some (v, c :: rest) := by
  cases v with
  | string s => simp [Value.text, readValue]
  | number digits =>
    have unquoted : ∀ tail, digits ++ c :: rest ≠ '"' :: tail := by
      intro tail he
      cases digits with
      | nil => exact quote (List.cons.inj he).1
      | cons d ds =>
        have hd := spelled d List.mem_cons_self
        rw [(List.cons.inj he).1] at hd
        exact absurd hd (by decide)
    rw [Value.text, readValue, List.takeWhile_append_of_pos spelled,
      List.dropWhile_append_of_pos spelled]
    · simp [ends]
    · exact unquoted

theorem readFields_fieldsText {fields : List Field} (filled : fields ≠ [])
    (spelled : ∀ f ∈ fields, f.2.Spelled) {n : Nat} (hn : fields.length ≤ n) :
    readFields n (fieldsText fields) = some fields := by
  induction fields generalizing n with
  | nil => exact absurd rfl filled
  | cons f fs ih =>
    obtain ⟨m, rfl⟩ := Nat.exists_eq_add_of_lt hn
    have hf := spelled f List.mem_cons_self
    cases fs with
    | nil =>
      have read := readValue_text hf (c := '}') (by decide) (by decide) []
      simp [fieldsText, fieldText, readFields, read]
    | cons g gs =>
      have read := readValue_text hf (c := ',') (by decide) (by decide) (fieldsText (g :: gs))
      have later := ih (by simp) (fun x hx => spelled x (List.mem_cons_of_mem f hx))
        (n := gs.length + 1 + m) (by simp)
      simp [fieldsText, fieldText, readFields, read, later]

theorem length_fieldsText (fields : List Field) : fields.length ≤ (fieldsText fields).length := by
  induction fields with
  | nil => simp
  | cons f fs ih =>
    cases fs with
    | nil => simp [fieldsText]
    | cons g gs =>
      simp only [fieldsText, List.length_append, List.length_cons] at ih ⊢
      omega

/-- What was written is read back. -/
theorem parse_stringify {fields : List Field} (filled : fields ≠ [])
    (spelled : ∀ f ∈ fields, f.2.Spelled) : parse (stringify fields) = some fields := by
  rw [parse, stringify, String.toList_ofList]
  exact readFields_fieldsText filled spelled (length_fieldsText fields)

end FlatJson
