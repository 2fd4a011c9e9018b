import ObjectConstraints.Number.DecimalText
import ObjectConstraints.Table

/-!
# Messages

A message is a template with placeholders, names in braces. Rendering replaces each placeholder once
by its value; what it is replaced by is not looked at again. Before that, a resolver may
replace the template by another one.
-/

namespace ObjectConstraints

namespace Message

inductive Piece where
  | char (c : Char)
  | placeholder (name : List Char)
  deriving DecidableEq, Repr

def isNameStart (c : Char) : Bool :=
  ('A' ≤ c && c ≤ 'Z') || ('a' ≤ c && c ≤ 'z') || c == '_'

def isNamePart (c : Char) : Bool := isNameStart c || ('0' ≤ c && c ≤ '9')

/-- The name of the placeholder whose opening brace stands before the text, and what follows it. -/
def placeholder? : List Char → Option (List Char × List Char)
  | [] => none
  | c :: cs =>
    if isNameStart c then
      match cs.dropWhile isNamePart with
      | '\x7d' :: rest => some (c :: cs.takeWhile isNamePart, rest)
      | _ => none
    else none

theorem length_dropWhile_le {α : Type} (p : α → Bool) (xs : List α) :
    (xs.dropWhile p).length ≤ xs.length := by
  induction xs with
  | nil => simp
  | cons x xs ih => by_cases h : p x <;> simp [h]; omega

theorem placeholder?_length {cs name rest : List Char} (h : placeholder? cs = some (name, rest)) :
    rest.length < cs.length := by
  cases cs with
  | nil => simp [placeholder?] at h
  | cons c cs =>
    have hle := length_dropWhile_le isNamePart cs
    simp only [placeholder?] at h
    split at h
    · split at h
      · next heq =>
        simp only [Option.some.injEq, Prod.mk.injEq] at h
        rw [heq] at hle
        rw [← h.2]
        simp only [List.length_cons] at hle ⊢
        omega
      · simp at h
    · simp at h

/-- The pieces of a template, from the left. -/
def pieces : List Char → List Piece
  | [] => []
  | c :: cs =>
    if c = '\x7b' then
      match h : placeholder? cs with
      | some (name, rest) =>
        have := placeholder?_length h
        .placeholder name :: pieces rest
      | none => .char c :: pieces cs
    else .char c :: pieces cs
  termination_by cs => cs.length
  decreasing_by all_goals simp_wf <;> omega

def Piece.source : Piece → List Char
  | .char c => [c]
  | .placeholder name => '\x7b' :: (name ++ ['\x7d'])

/-- What a piece is replaced by: a placeholder by the first value of its name, if there is one. -/
def Piece.render (values : List (String × String)) : Piece → List Char
  | .char c => [c]
  | .placeholder name =>
    match values.find? (·.1.toList == name) with
    | some (_, value) => value.toList
    | none => (Piece.placeholder name).source

def render (template : String) (values : List (String × String)) : String :=
  String.ofList ((pieces template.toList).flatMap (Piece.render values))

end Message

/-- What replaces templates, by template or by error code. Without a replacement they stay. -/
structure MessageResolver where
  replacement? : String → Option String := fun _ => none

/-- The template in use for a check's template and error code. -/
def MessageResolver.resolve (resolver : MessageResolver) (template code : String) : String :=
  ((resolver.replacement? template).or (resolver.replacement? code)).getD template

abbrev MessageTable := Table String String

/-- A table replaces what it has an entry for. -/
instance : Coe MessageTable MessageResolver := ⟨fun table => ⟨table.get?⟩⟩

end ObjectConstraints
