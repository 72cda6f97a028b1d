import PlcMonitor.Device.Fleet
import PlcMonitor.Proofs.Wire.Recorded

/-! Operations touch a connection only by the calls of its transport. So what all calls keep, all
operations keep, and operations on two transports agree where one is the other seen through a
function. -/
namespace PlcMonitor
variable {τ υ α : Type}

theorem Exchange.within_mapState (f : τ → υ) (exchange : Exchange τ α) (limitMs : Nat) :
    (exchange.mapState f).within limitMs =
      ((exchange.within limitMs).1, f (exchange.within limitMs).2.1,
        (exchange.within limitMs).2.2) := by
  unfold within
  split
  · rename_i inTime
    rw [if_pos (show exchange.delayMs ≤ limitMs from inTime)]
    rfl
  · rename_i late
    rw [if_neg (show ¬exchange.delayMs ≤ limitMs from late)]
    rfl

theorem Exchange.outcome_of_within {exchange : Exchange τ α} {limitMs ms : Nat} {answer : α}
    {wire : τ} (h : exchange.within limitMs = (.ok answer, wire, ms)) :
    exchange.outcome = .ok answer ∧ exchange.finished = wire := by
  unfold within at h
  split at h
  · obtain ⟨outcome, finished⟩ := Prod.mk.inj h
    exact ⟨outcome, (Prod.mk.inj finished).1⟩
  · cases h

theorem Exchange.within_keeps {kept : τ → Prop} {exchange : Exchange τ α}
    (h : kept exchange.started ∧ kept exchange.finished) (limitMs : Nat) :
    kept (exchange.within limitMs).2.1 := by
  unfold within
  split
  · exact h.2
  · exact h.1

def Link.map (f : τ → υ) (link : Link τ) : Link υ where
  settings := link.settings
  wire := f link.wire
  health := link.health
  clock := link.clock
  glimpse := link.glimpse

namespace Link

@[simp] theorem map_wire (f : τ → υ) (link : Link τ) : (link.map f).wire = f link.wire := rfl

@[simp] theorem limitMs_map (f : τ → υ) (link : Link τ) : (link.map f).limitMs = link.limitMs := rfl

@[simp] theorem map_pause (f : τ → υ) (link : Link τ) (pauses : Bool) :
    (link.map f).pause pauses = (link.pause pauses).map f := by
  unfold pause
  change (if pauses && link.glimpse.isNone then _ else _) = _
  split <;> rfl

@[simp] theorem pause_wire (link : Link τ) (pauses : Bool) :
    (link.pause pauses).wire = link.wire := by
  unfold pause
  split <;> rfl

@[simp] theorem pause_settings (link : Link τ) (pauses : Bool) :
    (link.pause pauses).settings = link.settings := by
  unfold pause
  split <;> rfl

@[simp] theorem pause_health (link : Link τ) (pauses : Bool) :
    (link.pause pauses).health = link.health := by
  unfold pause
  split <;> rfl

@[simp] theorem limitMs_pause (link : Link τ) (pauses : Bool) :
    (link.pause pauses).limitMs = link.limitMs :=
  congrArg (fun settings => settings.timeoutMs.toNat) (pause_settings link pauses)

section Projection
variable {f : τ → υ} {wires : Transport τ} {onto : Transport υ} (h : wires.Projects f onto)
include h

theorem close_map (link : Link τ) : close onto (link.map f) = (close wires link).map f :=
  congrArg (fun wire => { link.map f with wire }) (h.close link.wire)

theorem connect_map (link : Link τ) : connect onto (link.map f) =
    ((connect wires link).1, (connect wires link).2.map f) := by
  unfold connect
  rw [map_wire, h.isOpen, h.connect]
  split
  · rfl
  · rcases ended : (wires.connect link.wire).within link.limitMs with ⟨_ | _, wire, ms⟩ <;>
      simp only [map_pause, limitMs_map, limitMs_pause, Exchange.within_mapState, ended]
    · let failed := (link.pause (wires.connect link.wire).pauses).wait ms
      exact Prod.ext rfl (close_map h { failed with wire })
    · rfl

section Call
variable {call : τ → Exchange τ α} {call' : υ → Exchange υ α}
  (along : ∀ wire, call' (f wire) = (call wire).mapState f)
include along

theorem attempt_map (link : Link τ) : attempt onto call' (link.map f) =
    ((attempt wires call link).1, (attempt wires call link).2.map f) := by
  unfold attempt
  rw [connect_map h]
  rcases connect wires link with ⟨_ | _, link⟩
  · rfl
  · dsimp only
    rw [map_wire, along]
    rcases ended : (call link.wire).within link.limitMs with ⟨_ | _, wire, ms⟩ <;>
      simp only [map_pause, limitMs_map, limitMs_pause, Exchange.within_mapState, ended] <;> rfl

theorem attempts_map (more number : Nat) (link : Link τ) :
    attempts onto call' more number (link.map f) =
      ((attempts wires call more number link).1,
        (attempts wires call more number link).2.map f) := by
  fun_induction attempts wires call more number link with
  | case1 more number link answer ended attempted =>
    rw [attempts, attempt_map h along, attempted]
    rfl
  | case2 number link fault ended attempted closed =>
    rw [attempts, attempt_map h along, attempted]
    exact Prod.ext rfl (close_map h (ended.markError fault))
  | case3 number link fault ended attempted closed more pause ih =>
    have parted : close onto ((ended.map f).markError fault) = closed.map f :=
      close_map h (ended.markError fault)
    rw [← ih, attempts, attempt_map h along, attempted]
    dsimp only
    rw [parted, map_pause]
    rfl

theorem execute_map (link : Link τ) : execute onto call' (link.map f) =
    ((execute wires call link).1, (execute wires call link).2.map f) :=
  attempts_map h along _ 0 link

end Call

theorem readWords_map (address count : UInt16) (link : Link τ) :
    readWords onto address count (link.map f) =
      ((readWords wires address count link).1, (readWords wires address count link).2.map f) :=
  execute_map h (fun wire => by simp only [Transport.readExactly, h.read]; rfl) link

theorem readWord_map (address : UInt16) (link : Link τ) : readWord onto address (link.map f) =
    ((readWord wires address link).1, (readWord wires address link).2.map f) := by
  unfold readWord
  rw [readWords_map h]
  rcases readWords wires address 1 link with ⟨_ | words, link⟩
  · rfl
  · cases words <;> rfl

theorem writeWord_map (address value : UInt16) (link : Link τ) :
    writeWord onto address value (link.map f) =
      ((writeWord wires address value link).1, (writeWord wires address value link).2.map f) :=
  execute_map h (h.write link.settings.unit address value) link

end Projection

section Idle
variable {kept : τ → Prop} {wires : Transport τ} (h : wires.KeepsIdle kept)
include h

theorem connect_keeps {link : Link τ} (start : kept link.wire) :
    kept (connect wires link).2.wire := by
  have ended := Exchange.within_keeps (h.connect start) link.limitMs
  unfold connect
  split
  · exact start
  · simp only [limitMs_pause]
    generalize (wires.connect link.wire).within link.limitMs = result at ended ⊢
    rcases result with ⟨_ | _, wire, ms⟩
    · exact h.close ended
    · exact ended

theorem ensureConnected_keeps {link : Link τ} (start : kept link.wire) :
    kept (ensureConnected wires link).2.wire := by
  have ended := connect_keeps h start
  unfold ensureConnected
  generalize connect wires link = result at ended ⊢
  rcases result with ⟨_ | _, link⟩ <;> exact ended

end Idle

section Kept
variable {kept : τ → Prop} {wires : Transport τ} (h : wires.Keeps kept)
include h

theorem attempt_keeps (request : WireRequest) {link : Link τ} (start : kept link.wire) :
    kept (attempt wires (request.send wires) link).2.wire := by
  have opened := connect_keeps h.toKeepsIdle start
  unfold attempt
  generalize connect wires link = result at opened ⊢
  rcases result with ⟨_ | _, link⟩
  · exact opened
  · have ended := Exchange.within_keeps (h.send request opened) link.limitMs
    simp only [limitMs_pause]
    generalize (request.send wires link.wire).within link.limitMs = result at ended ⊢
    rcases result with ⟨_ | _, wire, ms⟩ <;> exact ended

theorem attempts_keeps (request : WireRequest) (more number : Nat) {link : Link τ}
    (start : kept link.wire) :
    kept (attempts wires (request.send wires) more number link).2.wire := by
  fun_induction attempts wires (request.send wires) more number link with
  | case1 more number link answer ended attempted =>
    have ends := attempt_keeps h request start
    rw [attempted] at ends
    exact ends
  | case2 number link fault ended attempted closed =>
    have ends := attempt_keeps h request start
    rw [attempted] at ends
    exact h.close ends
  | case3 number link fault ended attempted closed more pause ih =>
    have ends := attempt_keeps h request start
    rw [attempted] at ends
    refine ih ?_
    rw [wait, pause_wire]
    exact h.close ends

theorem execute_keeps (request : WireRequest) {link : Link τ} (start : kept link.wire) :
    kept (execute wires (request.send wires) link).2.wire :=
  attempts_keeps h request _ 0 start

end Kept

theorem readWord_preserves {wires : Transport τ} {kept : Link τ → Prop}
    (request : ∀ (request : WireRequest) {link}, kept link →
      kept (execute wires (request.send wires) link).2)
    (address : UInt16) {link : Link τ} (start : kept link) :
    kept (readWord wires address link).2 := by
  have ended : kept (readWords wires address 1 link).2 :=
    request (.read link.settings.unit address 1) start
  unfold readWord
  generalize readWords wires address 1 link = result at ended ⊢
  rcases result with ⟨_ | words, link⟩
  · exact ended
  · cases words <;> exact ended

end Link

namespace Operation

section Preserved
variable {wires : Transport τ} (kept : Link τ → Prop)
  (request : ∀ (request : WireRequest) {link}, kept link →
    kept (Link.execute wires (request.send wires) link).2)
include request

theorem writeBitOn_preserves (address : UInt16) (bit value : UInt8) (verify : Bool)
    {link : Link τ} (start : kept link) :
    kept (writeBitOn wires address bit value verify link).2 := by
  have read := Link.readWord_preserves request address start
  unfold writeBitOn
  generalize link.readWord wires address = result at read ⊢
  rcases result with ⟨_ | word, link⟩
  · exact read
  have written : kept (link.writeWord wires address (withBit word bit value)).2 :=
    request (.write link.settings.unit address _) read
  dsimp only
  generalize link.writeWord wires address (withBit word bit value) = result at written ⊢
  rcases result with ⟨_ | _, link⟩
  · exact written
  cases verify with
  | false => exact written
  | true =>
    have checked := Link.readWord_preserves request address written
    dsimp only [Bool.not_true]
    generalize link.readWord wires address = result at checked ⊢
    rcases result with ⟨_ | seen, link⟩
    · exact checked
    by_cases same : (if testBit seen bit then 1 else 0) = value <;> simpa [same] using checked

theorem perform_preserves (operation : Operation) {link : Link τ} (start : kept link) :
    kept (operation.perform wires link).2 := by
  cases operation with
  | readBlock address count => exact request (.read link.settings.unit address count) start
  | readRegister address => exact Link.readWord_preserves request address start
  | readBit address bit =>
    have ended := Link.readWord_preserves request address start
    simp only [perform]
    generalize link.readWord wires address = result at ended ⊢
    rcases result with ⟨_ | _, link⟩ <;> exact ended
  | writeRegister address value => exact request (.write link.settings.unit address value) start
  | writeBit address bit value verify =>
    exact writeBitOn_preserves kept request address bit value verify start

end Preserved

theorem perform_keeps {kept : τ → Prop} {wires : Transport τ} (h : wires.Keeps kept)
    (operation : Operation) {link : Link τ} (start : kept link.wire) :
    kept (operation.perform wires link).2.wire :=
  perform_preserves (fun link => kept link.wire)
    (fun request _ start => Link.execute_keeps h request start) operation start

theorem writeBitOn_map {f : τ → υ} {wires : Transport τ} {onto : Transport υ}
    (h : wires.Projects f onto) (address : UInt16) (bit value : UInt8) (verify : Bool)
    (link : Link τ) : writeBitOn onto address bit value verify (link.map f) =
      ((writeBitOn wires address bit value verify link).1,
        (writeBitOn wires address bit value verify link).2.map f) := by
  unfold writeBitOn
  rw [Link.readWord_map h]
  rcases link.readWord wires address with ⟨_ | word, link⟩
  · rfl
  dsimp only
  rw [Link.writeWord_map h]
  rcases link.writeWord wires address (withBit word bit value) with ⟨_ | _, link⟩
  · rfl
  cases verify with
  | false => rfl
  | true =>
    dsimp only [Bool.not_true]
    rw [Link.readWord_map h]
    rcases link.readWord wires address with ⟨_ | seen, link⟩
    · rfl
    by_cases same : (if testBit seen bit then 1 else 0) = value
    · simp [same]
    · simp [same]
      rfl

/-- An operation is the same on a transport and on what is seen of it. -/
theorem perform_map {f : τ → υ} {wires : Transport τ} {onto : Transport υ}
    (h : wires.Projects f onto) (operation : Operation) (link : Link τ) :
    operation.perform onto (link.map f) =
      ((operation.perform wires link).1, (operation.perform wires link).2.map f) := by
  cases operation with
  | readBlock address count => exact Link.readWords_map h address count link
  | readRegister address => exact Link.readWord_map h address link
  | readBit address bit =>
    simp only [perform, Link.readWord_map h]
    rcases link.readWord wires address with ⟨_ | _, link⟩ <;> rfl
  | writeRegister address value => exact Link.writeWord_map h address value link
  | writeBit address bit value verify => exact writeBitOn_map h address bit value verify link

end Operation
end PlcMonitor
