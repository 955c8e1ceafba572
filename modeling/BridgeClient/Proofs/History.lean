set_option autoImplicit false

/-! Values that are set again and again: what a history of commands leaves is what was set last. -/
namespace BridgeClient.History

variable {Command Value : Type}

/-- What some commands last set, given what was there before them. -/
def latest (set? : Command → Option Value) (initial : Value) (history : List Command) : Value :=
  ((history.filterMap set?).getLast?).getD initial

theorem latest_concat (set? : Command → Option Value) (initial : Value) (history : List Command)
    (command : Command) :
    latest set? initial (history ++ [command]) =
      (set? command).getD (latest set? initial history) := by
  unfold latest
  rw [List.filterMap_append]
  cases last : set? command with
  | none => simp [last]
  | some value => simp [last]

end BridgeClient.History
