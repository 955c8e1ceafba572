import BridgeClient.Await.Watch
import BridgeClient.Proofs.History
import BridgeClient.Wire.Builder
import Mathlib.Data.List.Induction

set_option autoImplicit false

/-!
A builder over time. Its route and receivers stay those it was made with, and its configuration is the
one set last. Every build takes the next random bytes for its identifier, so no two builds share any,
and the identifier a builder remembers is that of the operation it built last.
-/
namespace BridgeClient

open History

namespace RandomBytes

theorem draw_zero (source : RandomBytes) : source.draw 0 = (⟨[], rfl⟩, source) := by
  simp only [draw, List.range_zero, List.map_nil, Nat.zero_add]

/-- Two draws in a row take what one draw takes. -/
theorem toList_draw_add (source : RandomBytes) (first next : Nat) :
    (source.draw (first + next)).1.toList =
      (source.draw first).1.toList ++ ((source.draw first).2.draw next).1.toList := by
  simp only [draw, List.range_add, List.map_append, List.map_map, Function.comp_def]

theorem rest_draw_add (source : RandomBytes) (first next : Nat) :
    (source.draw (first + next)).2 = ((source.draw first).2.draw next).2 := by
  simp only [draw, Nat.add_assoc]

end RandomBytes

/-- What a builder is asked for. -/
inductive BuilderCommand where
  | setConfig (config : DecimalConfig)
  | direct
  | reverse
deriving DecidableEq

namespace BuilderCommand

def config? : BuilderCommand → Option DecimalConfig
  | setConfig config => some config
  | _ => none

def isBuild : BuilderCommand → Bool
  | setConfig _ => false
  | _ => true

end BuilderCommand

/-- A builder with the operations it has built, the first of them in front, and the random bytes that
are left. -/
structure Building where
  builder : SwapBuilder
  source : RandomBytes
  built : List SwapOperation

namespace Building

variable {route : Route} {ledgerReceiver : FixedBytes 32} {evmReceiver : FixedBytes 20}
  {source : RandomBytes} {commands : List BuilderCommand} {building : Building}

def start (route : Route) (ledgerReceiver : FixedBytes 32) (evmReceiver : FixedBytes 20)
    (source : RandomBytes) : Building :=
  ⟨.new route ledgerReceiver evmReceiver, source, []⟩

/-- The building goes on with what a build returns. -/
def add (building : Building) (made : SwapBuilder.Built) : Building :=
  ⟨made.builder, made.source, building.built ++ [made.operation]⟩

def step (building : Building) : BuilderCommand → Building
  | .setConfig config => { building with builder := building.builder.setConfig config }
  | .direct => building.add (building.builder.buildDirect building.source)
  | .reverse => building.add (building.builder.buildReverse building.source)

def follow (building : Building) (commands : List BuilderCommand) : Building :=
  commands.foldl step building

theorem follow_concat (building : Building) (commands : List BuilderCommand)
    (command : BuilderCommand) :
    building.follow (commands ++ [command]) = (building.follow commands).step command := by
  rw [follow, List.foldl_append]
  rfl

/-- A build takes the bytes of its identifier from the front of the source, as many as its chain
asks for, and the builder it leaves differs in the identifier alone. -/
structure Takes (builder : SwapBuilder) (source : RandomBytes) (made : SwapBuilder.Built) :
    Prop where
  id : ∃ size, made.operation.swapId.bytes = (source.draw size).1.toList ∧
    made.source = (source.draw size).2
  builder : made.builder = { builder with lastSwapId := some made.operation.swapId }

theorem takes_onLedger (builder : SwapBuilder) (action : Action) (amount : Binary64)
    (source : RandomBytes) : Takes builder source (builder.onLedger action amount source) :=
  ⟨⟨16, rfl, rfl⟩, rfl⟩

theorem takes_onEvm (builder : SwapBuilder) (action : Action) (amount : Nat)
    (source : RandomBytes) : Takes builder source (builder.onEvm action amount source) :=
  ⟨⟨32, rfl, rfl⟩, rfl⟩

theorem takes_buildDirect (builder : SwapBuilder) (source : RandomBytes) :
    Takes builder source (builder.buildDirect source) := by
  unfold SwapBuilder.buildDirect
  cases builder.route with
  | evmToLedger amount => exact takes_onLedger builder _ _ source
  | ledgerToEvm amount => exact takes_onEvm builder _ _ source

theorem takes_buildReverse (builder : SwapBuilder) (source : RandomBytes) :
    Takes builder source (builder.buildReverse source) := by
  unfold SwapBuilder.buildReverse
  cases builder.route with
  | evmToLedger amount => exact takes_onEvm builder _ _ source
  | ledgerToEvm amount => exact takes_onLedger builder _ _ source

/-- Where a builder stands after some commands. -/
structure Faithful (route : Route) (ledgerReceiver : FixedBytes 32) (evmReceiver : FixedBytes 20)
    (source : RandomBytes) (commands : List BuilderCommand) (building : Building) : Prop where
  /-- Every build made one operation. -/
  count : building.built.length = commands.countP BuilderCommand.isBuild
  /-- The builder is the one it was, but for the configuration set last and the identifier of the
  operation built last. -/
  builder : building.builder =
    ⟨route, ledgerReceiver, evmReceiver, latest BuilderCommand.config? ⟨0, 0⟩ commands,
      building.built.getLast?.map SwapOperation.swapId⟩
  /-- The identifiers, one behind the other, are what was taken from the source. -/
  drawn : ∃ taken,
    building.built.flatMap (fun operation => operation.swapId.bytes) = (source.draw taken).1.toList ∧
      building.source = (source.draw taken).2

theorem Faithful.start (route : Route) (ledgerReceiver : FixedBytes 32)
    (evmReceiver : FixedBytes 20) (source : RandomBytes) :
    Faithful route ledgerReceiver evmReceiver source []
      (start route ledgerReceiver evmReceiver source) where
  count := rfl
  builder := rfl
  drawn := ⟨0, by rw [RandomBytes.draw_zero]; exact ⟨rfl, rfl⟩⟩

theorem Faithful.add (faithful : Faithful route ledgerReceiver evmReceiver source commands building)
    {command : BuilderCommand} (build : command.isBuild = true) {made : SwapBuilder.Built}
    (takes : Takes building.builder building.source made) :
    Faithful route ledgerReceiver evmReceiver source (commands ++ [command])
      (building.add made) where
  count := by
    have one : [command].countP BuilderCommand.isBuild = 1 := by simp [build]
    rw [List.countP_append, one, ← faithful.count]
    exact List.length_append
  builder := by
    have kept : command.config? = none := by
      cases command with
      | setConfig config => cases build
      | direct => rfl
      | reverse => rfl
    have last : (building.add made).built.getLast? = some made.operation :=
      List.getLast?_concat ..
    rw [last, latest_concat, kept]
    exact takes.builder.trans (by rw [faithful.builder]; rfl)
  drawn := by
    obtain ⟨taken, ids, rest⟩ := faithful.drawn
    obtain ⟨size, bytes, left⟩ := takes.id
    -- The new identifier begins where the bytes of the others end.
    refine ⟨taken + size, ?_, ?_⟩
    · rw [RandomBytes.toList_draw_add, ← ids, ← rest, ← bytes]
      exact (List.flatMap_append ..).trans (congrArg _ (List.flatMap_singleton ..))
    · rw [RandomBytes.rest_draw_add, ← rest]
      exact left

theorem Faithful.step
    (faithful : Faithful route ledgerReceiver evmReceiver source commands building)
    (command : BuilderCommand) :
    Faithful route ledgerReceiver evmReceiver source (commands ++ [command])
      (building.step command) := by
  cases command with
  | setConfig config =>
      have unbuilt : [BuilderCommand.setConfig config].countP BuilderCommand.isBuild = 0 := rfl
      refine ⟨?_, ?_, faithful.drawn⟩
      · rw [List.countP_append, unbuilt]
        exact faithful.count
      · rw [latest_concat]
        exact congrArg (fun builder => builder.setConfig config) faithful.builder
  | direct => exact faithful.add rfl (takes_buildDirect building.builder building.source)
  | reverse => exact faithful.add rfl (takes_buildReverse building.builder building.source)

end Building
end BridgeClient
