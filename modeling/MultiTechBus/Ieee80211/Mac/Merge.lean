import Mathlib.Data.List.Induction
import MultiTechBus.Ieee80211.Mac.Dcf

/-! # Merged radio commands

A command that is held back is merged into the next one. What reaches the radio in
its place tunes the radio as the parts would have done one after the other.
-/

namespace MultiTechBus.Ieee80211

/-! ## Merged commands -/

/-- The content of the command that the commands `held` are merged into. -/
def mergeAll (held : List ConfigureRadioCommand) : Option ConfigureRadioCommand :=
  held.foldl (fun old command => some (old.elim command command.merge)) none

theorem mergeAll_append (held : List ConfigureRadioCommand) (command : ConfigureRadioCommand) :
    mergeAll (held ++ [command]) = some ((mergeAll held).elim command command.merge) := by
  simp [mergeAll]

theorem mergeAll_eq_none {held : List ConfigureRadioCommand} (h : mergeAll held = none) :
    held = [] := by
  induction held using List.reverseRecOn with
  | nil => rfl
  | append_singleton held command =>
      rw [mergeAll_append] at h
      cases h

/-- The channel of a radio after it receives commands. -/
def tune (channel : Int) (commands : List ConfigureRadioCommand) : Int :=
  commands.foldl (fun channel command =>
    if command.channelNumber = -1 then channel else command.channelNumber) channel

@[simp] theorem tune_append (channel : Int) (l l' : List ConfigureRadioCommand) :
    tune channel (l ++ l') = tune (tune channel l) l' := by
  simp [tune]

theorem tune_merge (channel : Int) (newCommand oldCommand : ConfigureRadioCommand) :
    tune channel [newCommand.merge oldCommand] = tune channel [oldCommand, newCommand] := by
  simp only [tune, List.foldl_cons, List.foldl_nil, ConfigureRadioCommand.merge]
  by_cases hnew : newCommand.channelNumber = -1 <;>
    by_cases hold : oldCommand.channelNumber = -1 <;> simp [hnew, hold]

/-- A merged command tunes the radio as its parts would one after the other. -/
theorem tune_mergeAll {held : List ConfigureRadioCommand} {command : ConfigureRadioCommand}
    (h : mergeAll held = some command) (channel : Int) :
    tune channel [command] = tune channel held := by
  induction held using List.reverseRecOn generalizing command with
  | nil => cases h
  | append_singleton held last ih =>
      rw [mergeAll_append] at h
      obtain rfl := Option.some.inj h
      cases hheld : mergeAll held with
      | none => rw [mergeAll_eq_none hheld]; rfl
      | some old =>
          rw [tune_append, ← ih hheld]
          exact tune_merge channel last old

/-- The messages `sent` are the commands `issued`, each itself or merged into a later one. -/
inductive Merges : List ConfigureRadioCommand → List ConfigureRadioCommand → Prop
  | nil : Merges [] []
  | snoc {issued sent held : List ConfigureRadioCommand} {command : ConfigureRadioCommand}
      (h : Merges issued sent) (hmerged : mergeAll held = some command) :
      Merges (issued ++ held) (sent ++ [command])

theorem Merges.tune_eq {issued sent : List ConfigureRadioCommand} (h : Merges issued sent)
    (channel : Int) : tune channel sent = tune channel issued := by
  induction h with
  | nil => rfl
  | snoc h hmerged ih => rw [tune_append, tune_append, ih, tune_mergeAll hmerged]

end MultiTechBus.Ieee80211
