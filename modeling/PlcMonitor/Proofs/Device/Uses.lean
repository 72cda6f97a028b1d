import Mathlib.Logic.Relation
import PlcMonitor.Device.Fleet
import PlcMonitor.Proofs.Table

/-! What may be done with a fleet, and what becomes of the link of each device meanwhile: it stays
there, and goes through steps of its own. What every step keeps is kept whatever is done. -/
namespace PlcMonitor
variable {τ : Type}

/-- A step that a link takes as its fleet is used. What happens to its wire from outside is among
the changes that are `known`. -/
inductive Link.Step (wires : Transport τ) (known : τ → τ → Prop) (link : Link τ) :
    Link τ → Prop where
  | clock (now : Nat) : Step wires known link { link with clock := now }
  | unseen : Step wires known link { link with glimpse := none }
  | perform (operation : Operation) : Step wires known link (operation.perform wires link).2
  | ensureConnected : Step wires known link (Link.ensureConnected wires link).2
  | shutdown : Step wires known link (link.shutdown wires)
  | rewire {wire : τ} (change : known link.wire wire) : Step wires known link { link with wire }

abbrev Link.Steps (wires : Transport τ) (known : τ → τ → Prop) : Link τ → Link τ → Prop :=
  Relation.ReflTransGen (Link.Step wires known)

namespace Fleet

/-- What may be done with a fleet: operations, alone and several at once, and what happens to its
wires and its clock meanwhile. -/
inductive Use (τ : Type) where
  | perform (device : String) (operation : Operation)
  | ensureConnected (device : String)
  | concurrently (tasks : List (String × Task))
  | shutdown
  | mapWires (change : String → τ → τ)
  | wait (ms : Nat)

def use (wires : Transport τ) (fleet : Fleet τ) : Use τ → Fleet τ
  | .perform device operation => (fleet.perform wires device operation).2
  | .ensureConnected device => (fleet.ensureConnected wires device).2
  | .concurrently tasks => (fleet.concurrently wires tasks).2
  | .shutdown => fleet.shutdown wires
  | .mapWires change => fleet.mapWires change
  | .wait ms => { fleet with clock := fleet.clock + ms }

def useAll (wires : Transport τ) (fleet : Fleet τ) (uses : List (Use τ)) : Fleet τ :=
  uses.foldl (use wires) fleet

/-- From outside the wires are changed as is `known` and not otherwise. -/
def Use.Changes (known : τ → τ → Prop) : Use τ → Prop
  | .mapWires change => ∀ name wire, known wire (change name wire)
  | .perform .. | .ensureConnected _ | .concurrently _ | .shutdown | .wait _ => True

/-- Every device has a link still, to which steps have led, and no device has come. -/
def Follows (wires : Transport τ) (known : τ → τ → Prop) (before after : Fleet τ) : Prop :=
  ∀ device, Option.Rel (Link.Steps wires known) (before.links.get? device)
    (after.links.get? device)

section Steps
variable {wires : Transport τ} {known : τ → τ → Prop} {fleet next final : Fleet τ}

theorem follows_refl (wires : Transport τ) (known : τ → τ → Prop) (fleet : Fleet τ) :
    Follows wires known fleet fleet := by
  intro device
  cases fleet.links.get? device with
  | none => exact .none
  | some link => exact .some .refl

theorem Follows.trans (h : Follows wires known fleet next)
    (h' : Follows wires known next final) : Follows wires known fleet final := by
  intro device
  have first := h device
  have second := h' device
  revert first second
  generalize fleet.links.get? device = before
  generalize next.links.get? device = middle
  generalize final.links.get? device = after
  rintro (first | _) (second | _)
  · exact .some (first.trans second)
  · exact .none

theorem follows_insert {user : String} {link after : Link τ}
    (found : fleet.links.get? user = some link) (steps : Link.Steps wires known link after)
    (clock : Nat) : Follows wires known fleet ⟨fleet.links.insert user after, clock⟩ := by
  intro device
  rw [Table.get?_insert]
  split
  · rename_i here
    rw [here, found]
    exact .some steps
  · exact follows_refl wires known fleet device

theorem follows_map {change : String → Link τ → Link τ}
    (step : ∀ name link, Link.Step wires known link (change name link)) (clock : Nat) :
    Follows wires known fleet
      ⟨⟨fleet.links.entries.map fun (name, link) => (name, change name link)⟩, clock⟩ := by
  intro device
  rw [Table.get?_mapped]
  cases fleet.links.get? device with
  | none => exact .none
  | some link => exact .some (.single (step device link))

variable (wires known fleet)

theorem performAt_follows (user : String) (operation : Operation) (now : Nat) :
    Follows wires known fleet (fleet.performAt wires user operation now).2.2 := by
  unfold performAt
  split
  · exact follows_refl wires known fleet
  · unfold useLink
    split
    · exact follows_refl wires known fleet
    · rename_i link found
      exact follows_insert found (.tail (.single (.clock now)) (.perform operation)) fleet.clock

theorem ensureConnectedAt_follows (user : String) (now : Nat) :
    Follows wires known fleet (fleet.ensureConnectedAt wires user now).2.2 := by
  unfold ensureConnectedAt
  split
  · exact follows_refl wires known fleet
  · rename_i link found
    exact follows_insert found (.tail (.single (.clock now)) .ensureConnected) fleet.clock

theorem shutdown_follows : Follows wires known fleet (fleet.shutdown wires) :=
  follows_map (fun _ _ => .shutdown) fleet.clock

theorem runTask_follows (user : String) (task : Task) (now : Nat) :
    Follows wires known fleet (fleet.runTask wires user task now).2.2 := by
  cases task with
  | perform operation => exact performAt_follows wires known fleet user operation now
  | ensureConnected => exact ensureConnectedAt_follows wires known fleet user now
  | health | healthOfAll | names => exact follows_refl wires known fleet
  | shutdown => exact shutdown_follows wires known fleet

theorem runTasks_follows (start : Nat) (free : Table String Nat) (tasks : List (String × Task)) :
    Follows wires known fleet (fleet.runTasks wires start free tasks).2 := by
  induction tasks generalizing fleet free with
  | nil => exact follows_refl wires known fleet
  | cons entry rest ih =>
    obtain ⟨user, task⟩ := entry
    have first := runTask_follows wires known fleet user task ((free.get? user).getD start)
    let ended := (fleet.runTask wires user task ((free.get? user).getD start)).2
    exact first.trans (ih { ended.2 with clock := max ended.2.clock ended.1 } _)

variable {known}

theorem use_follows {use : Use τ} (changes : use.Changes known) :
    Follows wires known fleet (fleet.use wires use) := by
  cases use with
  | perform user operation => exact performAt_follows wires known fleet user operation fleet.clock
  | ensureConnected user => exact ensureConnectedAt_follows wires known fleet user fleet.clock
  | concurrently tasks =>
    have unseen : Follows wires known fleet fleet.withoutGlimpses :=
      follows_map (fun _ _ => .unseen) fleet.clock
    exact unseen.trans (runTasks_follows wires known _ fleet.clock Table.empty tasks)
  | shutdown => exact shutdown_follows wires known fleet
  | mapWires change => exact follows_map (fun name link => .rewire (changes name link.wire)) _
  | wait ms => exact follows_refl wires known fleet

theorem useAll_follows {uses : List (Use τ)} (changes : ∀ use ∈ uses, use.Changes known) :
    Follows wires known fleet (fleet.useAll wires uses) := by
  induction uses generalizing fleet with
  | nil => exact follows_refl wires known fleet
  | cons use rest ih =>
    obtain ⟨first, later⟩ := List.forall_mem_cons.mp changes
    exact (use_follows wires fleet first).trans (ih _ later)

end Steps

theorem Follows.each {wires : Transport τ} {known : τ → τ → Prop} {fleet next : Fleet τ}
    (h : Follows wires known fleet next) {kept : Link τ → Prop}
    (step : ∀ {link after}, kept link → Link.Step wires known link after → kept after)
    (start : ∀ device link, fleet.links.get? device = some link → kept link) {device : String}
    {link : Link τ} (found : next.links.get? device = some link) : kept link := by
  have steps := h device
  rw [found] at steps
  generalize before : fleet.links.get? device = first at steps
  obtain @⟨first, _, steps⟩ := steps
  clear found
  induction steps with
  | refl => exact start device first before
  | tail _ last ih => exact step ih last

end Fleet
end PlcMonitor
