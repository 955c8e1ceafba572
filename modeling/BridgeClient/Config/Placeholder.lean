set_option autoImplicit false

/-!
Placeholders of the form `${NAME}` in a text, filled from an environment. Each is filled once: what
was put in is not looked at again.
-/
namespace BridgeClient

/-- The variables that are set. -/
abbrev Environment := String → Option String

namespace Placeholder

def startsName (c : Char) : Bool := ('A' ≤ c && c ≤ 'Z') || c = '_'

def continuesName (c : Char) : Bool := startsName c || c.isDigit

/-- The name in a placeholder whose `${` has been read, and what follows its closing brace. -/
def name? (cs : List Char) : Option (List Char × List Char) :=
  match cs.takeWhile continuesName, cs.dropWhile continuesName with
  | first :: others, '\x7d' :: rest =>
      if startsName first then some (first :: others, rest) else none
  | _, _ => none

theorem length_of_name? {cs name rest : List Char} (h : name? cs = some (name, rest)) :
    rest.length < cs.length := by
  unfold name? at h
  split at h
  · rename_i first others rest' _ hd
    split at h
    · cases h
      have hs : (cs.dropWhile continuesName).length ≤ cs.length :=
        (List.dropWhile_suffix continuesName).length_le
      rw [hd] at hs
      simp only [List.length_cons] at hs
      omega
    · cases h
  · cases h

/-- The text with every placeholder filled. A variable that is not set counts as empty. -/
def fill (environment : Environment) : List Char → List Char
  | '$' :: '\x7b' :: rest =>
      match _h : name? rest with
      | some (name, after) =>
          ((environment (String.ofList name)).getD "").toList ++ fill environment after
      | none => '$' :: fill environment ('\x7b' :: rest)
  | c :: rest => c :: fill environment rest
  | [] => []
termination_by cs => cs.length
decreasing_by
  · have := length_of_name? _h
    simp only [List.length_cons]
    omega
  · simp
  · simp

end Placeholder

namespace Environment

def fill (environment : Environment) (text : String) : String :=
  String.ofList (Placeholder.fill environment text.toList)

end Environment
end BridgeClient
