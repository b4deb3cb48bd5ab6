import KeyFeed.Session.Record
import Mathlib.Data.List.Induction

/-! What a listener asks for after any history of notifications, while others use the flag and the queue of its station
    as they like. The address that was reported last is all that a history leaves behind in a listener: it is kept as a
    byte and stands for itself again when it is read. Together with the flag at the moment of hearing it decides what a
    notification asks for, and that is offered to the queue as the only effect on the station. -/

namespace KeyFeed.Session
open Bus

/-! ### One notification -/

namespace Listener

variable (l : Listener) (flag : Bool)

@[simp] theorem own_ofAddress (a : LogicalAddress) : (ofAddress a).own = a := LogicalAddress.ofByte_toByte a

@[simp] theorem own_fresh : fresh.own = .unknown := own_ofAddress .unknown

/-- The address that a notification reports as the own one. -/
def reported? : Notification → Option LogicalAddress
  | .configuration c => some c.logical
  | .message _ _ _ | .key _ | .frame _ | .alert _ | .menu _ | .source _ _ => none

/-- Only a report of the configuration changes the own address. -/
theorem own_hear (n : Notification) : (l.hear flag n).listener.own = (reported? n).getD l.own := by
  cases n with
  | configuration c => exact own_ofAddress c.logical
  | message | key | frame | menu => rfl
  | alert a =>
    simp only [hear]
    split <;> rfl
  | source address activated =>
    simp only [hear]
    split <;> rfl

theorem isOwn_iff (address : LogicalAddress) : l.isOwn address = true ↔ address = l.own ∧ l.own ≠ .unknown := by
  simp [isOwn]

/-- A change of the active source asks for a command only if it is about the own address. -/
theorem command_hear_source (address : LogicalAddress) (activated : Bool) :
    (l.hear flag (.source address activated)).command =
      if address = l.own ∧ l.own ≠ .unknown then some (if activated then .activate else .inactive) else none := by
  simp only [hear, isOwn_iff]
  split <;> rfl

theorem command_hear_alert (a : Alert) :
    (l.hear flag (.alert a)).command = if a.requiresRestart then some .restart else none := by
  simp only [hear]
  split <;> rfl

end Listener

/-- Offers to the queue what is asked for. -/
def Station.offer (asked : Option Command) (st : Station) : Station :=
  { st with queue := asked.toList.foldl (fun q c => (q.push c).2) st.queue }

/-- A stopped queue takes nothing that is offered to it. -/
theorem Station.offer_stopped {st : Station} (h : st.queue.running = false) (asked : Option Command) :
    st.offer asked = st := by
  cases asked with
  | none => rfl
  | some c => simp [offer, Queue.push_stopped h]

/-! ### Histories -/

/-- Something that happens around a listener. What others do is told by what it makes of the station: they set the flag,
    start and stop the queue, push to it and pop from it. -/
inductive Event where
  | others (change : Station → Station)
  /-- A notification is delivered; others can act between its hearing and the push that it leads to. -/
  | delivered (n : Notification) (meanwhile : Station → Station)

/-- The own address that an event reports. -/
def Event.reported? : Event → Option LogicalAddress
  | .others _ => none
  | .delivered n _ => Listener.reported? n

/-- The address that was reported last, and none before the first report. -/
def lastReported (events : List Event) : LogicalAddress := (events.filterMap Event.reported?).getLast?.getD .unknown

/-- A listener and the station to which it reports. -/
structure Post (σ : Type) where
  station : Station
  listener : Listener
  world : σ

namespace Post

variable {σ : Type}

def begin (st : Station) (w : σ) : Post σ := ⟨st, .fresh, w⟩

/-- What a notification asks for that is heard now. -/
def asks (p : Post σ) (n : Notification) : Option Command := (p.listener.hear p.station.wantsActive n).command

def step (out : Outlet σ) : Event → Post σ → Post σ
  | .others change, p => { p with station := change p.station }
  | .delivered n meanwhile, p =>
    let heard := p.listener.hear p.station.wantsActive n
    let w := heard.notices.foldl (fun w n => out.notify n w) p.world
    ⟨(meanwhile p.station).offer heard.command, heard.listener, w⟩

/-- Takes the events one after another. -/
def play (out : Outlet σ) (events : List Event) (p : Post σ) : Post σ := events.foldl (fun p e => p.step out e) p

@[simp] theorem play_nil (out : Outlet σ) (p : Post σ) : p.play out [] = p := rfl

theorem play_concat (out : Outlet σ) (events : List Event) (e : Event) (p : Post σ) :
    p.play out (events ++ [e]) = (p.play out events).step out e := by
  simp [play]

variable (out : Outlet σ) (p : Post σ)

/-- A delivery into which no one else comes is that of the station. -/
theorem step_delivered_id (n : Notification) : p.step out (.delivered n id) =
    let (st, l, w) := p.station.deliver out p.listener n p.world
    ⟨st, l, w⟩ := by
  simp only [step, id, Station.deliver, Station.offer]
  cases (p.listener.hear p.station.wantsActive n).command <;> rfl

theorem own_step (e : Event) : (p.step out e).listener.own = e.reported?.getD p.listener.own := by
  cases e with
  | others => rfl
  | delivered n meanwhile => exact p.listener.own_hear p.station.wantsActive n

theorem lastReported_concat (events : List Event) (e : Event) :
    lastReported (events ++ [e]) = e.reported?.getD (lastReported events) := by
  cases h : e.reported? <;> simp [lastReported, h]

/-- A listener knows the address that was reported last. -/
theorem own_play (st : Station) (w : σ) (events : List Event) :
    ((begin st w).play out events).listener.own = lastReported events := by
  induction events using List.reverseRecOn with
  | nil => exact Listener.own_fresh
  | append_singleton events e ih => rw [play_concat, own_step, lastReported_concat, ih]

/-- Whatever was delivered to a new listener before, and whatever others did: the listener knows the address that was
    reported last. A notification that is delivered then changes nothing at its station but the queue, to which it
    offers at most one command, the one it asks for when it is heard; and nothing at all if the queue is stopped when
    the command comes to it. A change of the active source asks to follow it if it is about that address, unless there
    is none; a request for the active source asks to come forward while the flag is on; an alert asks for a restart if
    it requires one. A frame whose opcode came as a bare byte asks for nothing, even if the byte has a name, and neither
    does a message. -/
theorem asks_after_history (out : Outlet σ) (st : Station) (w : σ) (before : List Event) :
    let p := (begin st w).play out before
    p.listener.own = lastReported before ∧
    (∀ n meanwhile, let p' := p.step out (.delivered n meanwhile)
      p'.station = (meanwhile p.station).offer (p.asks n) ∧ p'.station.wantsActive = (meanwhile p.station).wantsActive ∧
        ((meanwhile p.station).queue.running = false → p'.station = meanwhile p.station)) ∧
    (∀ n, p.step out (.delivered n id) =
      let (st, l, w) := p.station.deliver out p.listener n p.world
      ⟨st, l, w⟩) ∧
    (∀ address activated, p.asks (.source address activated) =
      if address = lastReported before ∧ lastReported before ≠ .unknown then
        some (if activated then .activate else .inactive)
      else none) ∧
    (∀ f : Frame, f.opcode = .requestActiveSource →
      p.asks (.frame f) = if p.station.wantsActive then some .activate else none) ∧
    (∀ a, p.asks (.alert a) = if a.requiresRestart then some .restart else none) ∧
    (∀ (f : Frame) (b : UInt8), f.opcode = .other b → p.asks (.frame f) = none) ∧
    ∀ gravity text time, p.asks (.message gravity text time) = none := by
  intro p
  have hown : p.listener.own = lastReported before := own_play out st w before
  refine ⟨hown, fun n meanwhile => ⟨rfl, rfl, fun hstopped => ?_⟩, p.step_delivered_id out, fun address activated => ?_,
    fun f hf => ?_, fun a => ?_, fun f b hf => ?_, fun _ _ _ => rfl⟩
  · exact Station.offer_stopped hstopped (p.asks n)
  · rw [← hown]
    exact p.listener.command_hear_source p.station.wantsActive address activated
  · show Listener.commandOfFrame p.station.wantsActive f = _
    rw [Listener.commandOfFrame, hf]
  · exact p.listener.command_hear_alert p.station.wantsActive a
  · show Listener.commandOfFrame p.station.wantsActive f = none
    rw [Listener.commandOfFrame, hf]

/-- A second address is reported and the flag turned off; then the link is lost while someone stops the queue. -/
theorem asks_after_history_reconfigured :
    let report (a : LogicalAddress) : Event := .delivered (.configuration ⟨a, ⟨0x1000⟩, "tv"⟩) id
    let before := [report .tuner1, .others fun st => { st with wantsActive := false }, report .playbackDevice1]
    let stop (st : Station) : Station := { st with queue := st.queue.stop.2 }
    let out := Record.outlet fun _ => none
    let p := (begin { Station.fresh true .unset "tag" with queue := ⟨true, [.standby]⟩ } Record.empty).play out before
    p.listener.own = .playbackDevice1 ∧ p.asks (.source .tuner1 true) = none ∧
      p.asks (.source .playbackDevice1 false) = some .inactive ∧
      p.asks (.frame ⟨.tv, .broadcast, .requestActiveSource, []⟩) = none ∧
      p.asks (.frame ⟨.tv, .broadcast, .other Opcode.standby.toByte, []⟩) = none ∧
      p.asks (.alert .connectionLost) = some .restart ∧
      (p.step out (.delivered (.alert .connectionLost) stop)).station = stop p.station := by
  intro report before stop out p
  obtain ⟨hown, hstep, -, hsource, hrequest, halert, hother, -⟩ :=
    asks_after_history out { Station.fresh true .unset "tag" with queue := ⟨true, [.standby]⟩ } Record.empty before
  refine ⟨hown.trans (by decide), (hsource _ _).trans (by decide), (hsource _ _).trans (by decide),
    (hrequest ⟨.tv, .broadcast, .requestActiveSource, []⟩ rfl).trans (by decide),
    hother ⟨.tv, .broadcast, .other Opcode.standby.toByte, []⟩ _ rfl, halert _, ?_⟩
  exact (hstep (.alert .connectionLost) stop).2.2 rfl

end Post

end KeyFeed.Session
