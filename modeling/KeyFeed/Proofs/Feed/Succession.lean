import KeyFeed.Feed.Endpoint
import KeyFeed.Proofs.Host.Places
import Mathlib

/-! Who owns the socket file. In a `Succession` endpoints follow one another at one path: each is closed before the
    next one opens, and is dropped, which closes it once more, whenever the one who holds it likes. From the first
    opening on the file is there exactly while one of them is open, and it is the file of that one; those that are
    closed already have nothing to do with it. -/

namespace KeyFeed.Host.Machine
open Feed

variable (m : Machine)

/-! ### What leaves the files alone -/

theorem files_foldl_sever {α : Type} (peer : α → Nat) (peers : List α) :
    (peers.foldl (fun m p => m.sever (peer p)) m).files = m.files := by
  induction peers generalizing m with
  | nil => rfl
  | cons p peers ih => exact ih (m.sever (peer p))

theorem files_stopListening (endpoint : Nat) : (m.stopListening endpoint).files = m.files :=
  files_foldl_sever _ (fun peer => peer) _

theorem files_sendLine (peer : Nat) (line : String) : (m.sendLine peer line).2.files = m.files := by
  rw [sendLine]
  split
  · rfl
  · dsimp only
    split <;> rfl

theorem files_sendEach (line : String) (subs : List (Subscriber Nat)) :
    (Server.sendEach (fun peer => sendLine peer line) subs m).2.files = m.files := by
  induction subs generalizing m with
  | nil => rfl
  | cons sub subs ih => exact (ih _).trans (m.files_sendLine sub.peer line)

end KeyFeed.Host.Machine

namespace KeyFeed.Feed
open Host

/-! ### One endpoint -/

theorem Server.listening_acceptArrivals {κ : Type} (s : Server κ) (arrivals : List (Arrival κ)) :
    (s.acceptArrivals arrivals).server.listening = s.listening := by
  induction arrivals generalizing s with
  | nil => rfl
  | cons a rest ih =>
    cases a with
    | connection peer => exact ih (s.subscribe peer)
    | unusable | interrupted => exact ih s
    | nothing | failed => rfl

namespace Endpoint

variable {path : String} {e : Endpoint} {m m' : Machine} {notices : List Notice}

theorem bindTo_eq_ok (h : bindTo path m = (.ok e, m')) :
    e = ⟨path, e.backlog, .opened⟩ ∧ Files.endsInName path = true ∧
      ∀ follow, m'.files.shown follow path = some (.socket e.backlog) := by
  rw [bindTo, Machine.listen] at h
  cases hcheck : Machine.checkSocketPath path with
  | error cause =>
    rw [hcheck] at h
    cases h
  | ok =>
    by_cases hempty : path.isEmpty = true
    · -- There is never a file at the empty path, so none can be opened to everyone.
      obtain rfl : path = "" := String.isEmpty_iff.mp hempty
      cases h
    · cases hmade : m.files.makeSocket path m.backlogs.length with
      | error cause => simp [hcheck, hempty, hmade] at h
      | ok made =>
        cases hmode : made.setMode path socketMode with
        | error cause => simp [hcheck, hempty, hmade, hmode] at h
        | ok files =>
          simp [hcheck, hempty, hmade, hmode] at h
          obtain ⟨rfl, rfl⟩ := h
          exact ⟨rfl, Files.shown_makeAt_setMode hmade hmode (by simp [Files.IsEnd])⟩

/-- An endpoint that could be opened has made the file at its path. -/
theorem openAt_eq_ok (h : openAt path m = (.ok e, notices, m')) :
    e = ⟨path, e.backlog, .opened⟩ ∧ Files.endsInName path = true ∧
      ∀ follow, m'.files.shown follow path = some (.socket e.backlog) := by
  rw [openAt] at h
  by_cases hlong : Machine.socketPathLimit ≤ path.utf8ByteSize
  · simp [hlong] at h
  · rw [if_neg hlong] at h
    split at h
    · cases h
    · next prepared _ =>
      dsimp only at h
      split at h
      · cases h
      · next hbound =>
        cases h
        exact bindTo_eq_ok hbound

/-- Closing again does nothing, neither to the file at the path nor to anything else. -/
theorem close_of_closed (hclosed : e.isOpen = false) (hidle : e.server.subscribers = []) :
    e.close m = ([], e, m) := by
  obtain ⟨path, backlog, listening, subscribers, lastId⟩ := e
  obtain rfl : listening = false := hclosed
  obtain rfl : subscribers = [] := hidle
  rfl

/-- Closing an open endpoint takes away what its path shows, if that can be taken away. -/
theorem files_close {files : Files} (hopen : e.isOpen = true) (h : m.files.unlink e.path = .ok files) :
    (e.close m).2.2.files = files := by
  have hfiles : ((e.server.subscribers.foldl (fun m sub => m.sever sub.peer) m).stopListening e.backlog).files =
      m.files := (Machine.files_stopListening _ _).trans (Machine.files_foldl_sever m _ _)
  simp only [close, hopen, if_true, removeFile, hfiles, h]

theorem endpoint_close (e : Endpoint) (m : Machine) : (e.close m).2.1 = { e with server := e.server.close } := by
  simp only [close]
  split <;> rfl

/-- An endpoint at a path; a closed one has no subscribers. -/
structure Settled (path : String) (e : Endpoint) : Prop where
  path : e.path = path
  idle : e.isOpen = false → e.server.subscribers = []

theorem Settled.close (h : e.Settled path) (m : Machine) : (e.close m).2.1.Settled path := by
  rw [endpoint_close]
  exact ⟨h.path, fun _ => rfl⟩

/-- What has become of an endpoint and its machine is no more than that other ones are subscribed. -/
structure Continues (e : Endpoint) (m : Machine) (next : Endpoint × Machine) : Prop where
  path : next.1.path = e.path
  backlog : next.1.backlog = e.backlog
  isOpen : next.1.isOpen = e.isOpen
  idle : e.isOpen = false → e.server.subscribers = [] → next.1.server.subscribers = []
  files : next.2.files = m.files

theorem continues_accept (e : Endpoint) (m : Machine) : e.Continues m (e.accept m).2.2 := by
  rw [accept]
  cases hopen : e.isOpen with
  | false => exact ⟨rfl, rfl, rfl, fun _ hidle => hidle, rfl⟩
  | true =>
    have hlistening : e.server.listening = true := hopen
    refine ⟨rfl, rfl, ?_, fun hclosed => absurd hopen (Bool.eq_false_iff.mp hclosed), rfl⟩
    simp only [if_true, isOpen, Server.accept, hlistening]
    exact (e.server.listening_acceptArrivals _).trans hlistening

theorem continues_broadcast (line : String) (e : Endpoint) (m : Machine) :
    e.Continues m (e.broadcast line m).2.2 := by
  refine ⟨rfl, rfl, rfl, fun _ hidle => ?_, m.files_sendEach line e.server.subscribers⟩
  simp [broadcast, Server.broadcast, hidle, Server.sendEach, Server.kept]

theorem Settled.continues {next : Endpoint × Machine} (h : e.Settled path) (hnext : e.Continues m next) :
    next.1.Settled path := by
  refine ⟨hnext.path.trans h.path, fun hclosed => ?_⟩
  have hformer : e.isOpen = false := hnext.isOpen.symm.trans hclosed
  exact hnext.idle hformer (h.idle hformer)

end Endpoint

/-! ### One endpoint after another -/

/-- The endpoints that someone holds, in the order of their opening, and the machine on which they are. -/
structure Succession where
  machine : Machine
  endpoints : List Endpoint

namespace Succession

/-- Something that is done to the endpoints at a path, or around them. -/
inductive Move where
  /-- One more endpoint is opened. -/
  | opens
  | closes (i : Nat)
  /-- The one who holds an endpoint lets go of it, which closes it before. -/
  | drops (i : Nat)
  | accepts (i : Nat)
  | broadcasts (i : Nat) (line : String)
  /-- Others do something: they connect, read, disconnect, or change files. -/
  | others (change : Machine → Machine)

variable {path : String} {s s' : Succession} {e : Endpoint} {i : Nat}

def begin (m : Machine) : Succession := ⟨m, []⟩

/-- Uses one of the endpoints, if it is there. -/
def use (i : Nat) (how : Endpoint → Machine → Endpoint × Machine) (s : Succession) : Option Succession :=
  s.endpoints[i]?.map fun e => ⟨(how e s.machine).2, s.endpoints.set i (how e s.machine).1⟩

def close (i : Nat) (s : Succession) : Option Succession := s.use i fun e m => (e.close m).2

/-- What a move comes to at a path. There is no opening that fails or that comes while another endpoint is open, no use
    of an endpoint that is not there, and others change nothing that the path shows. -/
def perform (path : String) : Move → Succession → Option Succession
  | .opens, s =>
    if s.endpoints.any Endpoint.isOpen then none
    else match Endpoint.openAt path s.machine with
      | (.error _, _) => none
      | (.ok e, _, m) => some ⟨m, s.endpoints ++ [e]⟩
  | .closes i, s => s.close i
  | .drops i, s => (s.close i).map fun s => { s with endpoints := s.endpoints.eraseIdx i }
  | .accepts i, s => s.use i fun e m => (e.accept m).2.2
  | .broadcasts i line, s => s.use i fun e m => (e.broadcast line m).2.2
  | .others change, s =>
    let m := change s.machine
    if m.files.shown false path = s.machine.files.shown false path ∧
        m.files.shown true path = s.machine.files.shown true path then
      some { s with machine := m }
    else none

def run (path : String) : List Move → Succession → Option Succession
  | [], s => some s
  | move :: moves, s => (s.perform path move).bind (run path moves)

variable {how : Endpoint → Machine → Endpoint × Machine}

theorem use_eq_none (h : s.endpoints = []) : s.use i how = none := by
  simp [use, h]

/-- An endpoint that is used stays between those before it and those after it. -/
theorem use_eq_some (h : s.use i how = some s') :
    ∃ before e after, s.endpoints = before ++ e :: after ∧ before.length = i ∧
      s' = ⟨(how e s.machine).2, before ++ (how e s.machine).1 :: after⟩ := by
  obtain ⟨e, he, rfl⟩ := Option.map_eq_some_iff.mp h
  obtain ⟨hi, rfl⟩ := List.getElem?_eq_some_iff.mp he
  refine ⟨s.endpoints.take i, s.endpoints[i], s.endpoints.drop (i + 1), ?_, ?_, ?_⟩
  · rw [List.getElem_cons_drop, List.take_append_drop]
  · exact List.length_take_of_le (Nat.le_of_lt hi)
  · rw [List.set_eq_take_append_cons_drop, if_pos hi]

/-- The sockets of the endpoints that are open. -/
def sockets (endpoints : List Endpoint) : List Nat := (endpoints.filter Endpoint.isOpen).map Endpoint.backlog

theorem sockets_append (es fs : List Endpoint) : sockets (es ++ fs) = sockets es ++ sockets fs := by
  simp [sockets]

theorem sockets_cons_open (he : e.isOpen = true) (es : List Endpoint) :
    sockets (e :: es) = e.backlog :: sockets es := by
  simp [sockets, he]

theorem sockets_cons_closed (he : e.isOpen = false) (es : List Endpoint) : sockets (e :: es) = sockets es := by
  simp [sockets, he]

theorem sockets_eq_nil_iff {es : List Endpoint} : sockets es = [] ↔ ∀ e ∈ es, e.isOpen = false := by
  simp [sockets]

/-- From the first opening on, the path shows the socket of the one endpoint that is open, and nothing if none is. -/
structure Kept (path : String) (s : Succession) : Prop where
  settled : ∀ e ∈ s.endpoints, e.Settled path
  named : Files.endsInName path = true
  single : (sockets s.endpoints).length ≤ 1
  shown : ∀ follow, s.machine.files.shown follow path = (sockets s.endpoints).head?.map Content.socket

theorem kept_of_opens (hsettled : ∀ e ∈ s.endpoints, e.Settled path) (h : s.perform path .opens = some s') :
    Kept path s' := by
  rw [perform] at h
  split at h
  · cases h
  · next hnone =>
    have hsockets : sockets s.endpoints = [] := by simpa [sockets] using hnone
    rcases hopened : Endpoint.openAt path s.machine with ⟨_ | e, notices, m⟩
    · rw [hopened] at h
      cases h
    · rw [hopened] at h
      cases h
      obtain ⟨he, hnamed, hshown⟩ := Endpoint.openAt_eq_ok hopened
      have hopen : e.isOpen = true := by rw [he]; rfl
      have hsettled' : e.Settled path := ⟨by rw [he], fun hclosed => absurd hopen (Bool.eq_false_iff.mp hclosed)⟩
      have hnow : sockets (s.endpoints ++ [e]) = [e.backlog] := by
        rw [sockets_append, hsockets, sockets_cons_open hopen]
        rfl
      refine ⟨fun other hother => ?_, hnamed, by rw [hnow]; exact Nat.le_refl 1, fun follow => ?_⟩
      · rcases List.mem_append.mp hother with hold | hnew
        · exact hsettled other hold
        · exact List.mem_singleton.mp hnew ▸ hsettled'
      · rw [hnow]
        exact hshown follow

variable {before after : List Endpoint}

theorem Kept.mem (h : Kept path s) (hs : s.endpoints = before ++ e :: after) : e.Settled path :=
  h.settled e (hs ▸ List.mem_append_right before List.mem_cons_self)

/-- When an endpoint is closed, the path goes on to show what the other ones have there. -/
theorem Kept.shown_close (h : Kept path s) (hs : s.endpoints = before ++ e :: after) (follow : Bool) :
    (e.close s.machine).2.2.files.shown follow path = (sockets (before ++ after)).head?.map Content.socket := by
  cases he : e.isOpen with
  | false =>
    rw [Endpoint.close_of_closed he ((h.mem hs).idle he), h.shown, hs, sockets_append, sockets_cons_closed he,
      sockets_append]
  | true =>
    -- It is the only one that is open, so the file at the path is its own.
    have hsockets : sockets s.endpoints = sockets before ++ e.backlog :: sockets after := by
      rw [hs, sockets_append, sockets_cons_open he]
    have hsingle := h.single
    rw [hsockets, List.length_append, List.length_cons] at hsingle
    have hbefore : sockets before = [] := List.length_eq_zero_iff.mp (by omega)
    have hafter : sockets after = [] := List.length_eq_zero_iff.mp (by omega)
    have hshown : s.machine.files.shown false path = some (.socket e.backlog) := by
      rw [h.shown, hsockets, hbefore]
      rfl
    obtain ⟨files, hunlink, hnone⟩ := Files.unlink_of_shown hshown (by simp [Files.IsEnd]) h.named
    rw [Endpoint.files_close he ((h.mem hs).path.symm ▸ hunlink), hnone, sockets_append, hbefore, hafter]
    rfl

theorem others_sublist (hs : s.endpoints = before ++ e :: after) : (before ++ after).Sublist s.endpoints :=
  hs ▸ (List.sublist_cons_self e after).append_left before

theorem Kept.settled_others (h : Kept path s) (hs : s.endpoints = before ++ e :: after) :
    ∀ x ∈ before ++ after, x.Settled path := fun x hx => h.settled x ((others_sublist hs).subset hx)

theorem Kept.settled_replace {e' : Endpoint} (h : Kept path s) (hs : s.endpoints = before ++ e :: after)
    (he' : e'.Settled path) : ∀ x ∈ before ++ e' :: after, x.Settled path := by
  intro x hx
  have hcases : x = e' ∨ x ∈ before ++ after := by simpa [or_left_comm] using hx
  rcases hcases with rfl | hother
  · exact he'
  · exact h.settled_others hs x hother

theorem Kept.single_others (h : Kept path s) (hs : s.endpoints = before ++ e :: after) :
    (sockets (before ++ after)).length ≤ 1 :=
  Nat.le_trans (((others_sublist hs).filter Endpoint.isOpen).map Endpoint.backlog).length_le h.single

theorem Kept.close (h : Kept path s) (hclose : s.close i = some s') : Kept path s' := by
  obtain ⟨before, e, after, hs, -, rfl⟩ := use_eq_some hclose
  have hsockets : sockets (before ++ (e.close s.machine).2.1 :: after) = sockets (before ++ after) := by
    rw [sockets_append, sockets_append, sockets_cons_closed (by rw [Endpoint.endpoint_close]; rfl)]
  exact ⟨h.settled_replace hs ((h.mem hs).close s.machine), h.named, hsockets ▸ h.single_others hs,
    fun follow => by rw [hsockets]; exact h.shown_close hs follow⟩

/-- Letting go of an endpoint is closing it. -/
theorem Kept.drop (h : Kept path s) (hdrop : s.perform path (.drops i) = some s') : Kept path s' := by
  obtain ⟨closed, hclose, rfl⟩ := Option.map_eq_some_iff.mp hdrop
  obtain ⟨before, e, after, hs, rfl, rfl⟩ := use_eq_some hclose
  have herase : (before ++ (e.close s.machine).2.1 :: after).eraseIdx before.length = before ++ after := by
    simp [List.eraseIdx_append_of_length_le]
  simp only [herase]
  exact ⟨h.settled_others hs, h.named, h.single_others hs, h.shown_close hs⟩

theorem Kept.use (h : Kept path s) (hhow : ∀ (e : Endpoint) m, e.Continues m (how e m))
    (huse : s.use i how = some s') : Kept path s' := by
  obtain ⟨before, e, after, hs, -, rfl⟩ := use_eq_some huse
  have hnext := hhow e s.machine
  have hsockets : sockets (before ++ (how e s.machine).1 :: after) = sockets s.endpoints := by
    rw [hs, sockets_append, sockets_append]
    cases hopen : e.isOpen with
    | true => rw [sockets_cons_open hopen, sockets_cons_open (hnext.isOpen.trans hopen), hnext.backlog]
    | false => rw [sockets_cons_closed hopen, sockets_cons_closed (hnext.isOpen.trans hopen)]
  exact ⟨h.settled_replace hs ((h.mem hs).continues hnext), h.named, hsockets ▸ h.single,
    fun follow => by rw [hsockets, hnext.files]; exact h.shown follow⟩

theorem Kept.perform {move : Move} (h : Kept path s) (hperform : s.perform path move = some s') : Kept path s' := by
  cases move with
  | opens => exact kept_of_opens h.settled hperform
  | closes => exact h.close hperform
  | drops => exact h.drop hperform
  | accepts => exact h.use Endpoint.continues_accept hperform
  | broadcasts i line => exact h.use (Endpoint.continues_broadcast line) hperform
  | others change =>
    rw [Succession.perform] at hperform
    split at hperform
    · next hshown =>
      cases hperform
      have hsame (follow : Bool) : (change s.machine).files.shown follow path = s.machine.files.shown follow path := by
        cases follow with
        | false => exact hshown.1
        | true => exact hshown.2
      exact ⟨h.settled, h.named, h.single, fun follow => (hsame follow).trans (h.shown follow)⟩
    · cases hperform

theorem Kept.run {moves : List Move} (h : Kept path s) (hrun : s.run path moves = some s') : Kept path s' := by
  induction moves generalizing s with
  | nil =>
    cases hrun
    exact h
  | cons move moves ih =>
    obtain ⟨next, hperform, hrest⟩ := Option.bind_eq_some_iff.mp hrun
    exact ih (h.perform hperform) hrest

/-- Before the first opening there is no endpoint, so that nothing but others can do anything. -/
theorem kept_run {moves : List Move} (hnone : s.endpoints = []) (hopens : .opens ∈ moves)
    (hrun : s.run path moves = some s') : Kept path s' := by
  induction moves generalizing s with
  | nil => cases hopens
  | cons move moves ih =>
    obtain ⟨next, hperform, hrest⟩ := Option.bind_eq_some_iff.mp hrun
    cases move with
    | opens =>
      refine (kept_of_opens (fun e he => ?_) hperform).run hrest
      rw [hnone] at he
      cases he
    | closes | drops | accepts | broadcasts =>
      simp [Succession.perform, Succession.close, use_eq_none hnone] at hperform
    | others change =>
      have hlater : .opens ∈ moves := (List.mem_cons.mp hopens).resolve_left Move.noConfusion
      have hnext : next.endpoints = [] := by
        rw [Succession.perform] at hperform
        split at hperform
        · cases hperform
          exact hnone
        · cases hperform
      exact ih hnext hlater hrest

/-- Endpoints follow one another at a path, each closed before the next one opens; all of them can be closed again and
    dropped at any time, and others do what they like that does not change what the path shows. From the first opening
    on there is a file at the path exactly while one of the endpoints is open, and no two are open at once. The path
    shows the socket of the one that is open, whether a link at its end is gone through or not, and nothing if none is.
    Closing one that is closed changes nothing, and letting go of it changes nothing but that it is gone. -/
theorem contains_iff_isOpen {m : Machine} {moves : List Move} (hopens : .opens ∈ moves)
    (hrun : (begin m).run path moves = some s) :
    (s.machine.files.contains path = true ↔ ∃ e ∈ s.endpoints, e.isOpen = true) ∧
    s.endpoints.countP Endpoint.isOpen ≤ 1 ∧
    (∀ e ∈ s.endpoints, e.isOpen = true → ∀ follow, s.machine.files.shown follow path = some (.socket e.backlog)) ∧
    ((∀ e ∈ s.endpoints, e.isOpen = false) → ∀ follow, s.machine.files.shown follow path = none) ∧
    ∀ i e, s.endpoints[i]? = some e → e.isOpen = false → e.close s.machine = ([], e, s.machine) ∧
      s.perform path (.closes i) = some s ∧
      s.perform path (.drops i) = some { s with endpoints := s.endpoints.eraseIdx i } := by
  have hkept : Kept path s := kept_run rfl hopens hrun
  have hcount : s.endpoints.countP Endpoint.isOpen = (sockets s.endpoints).length := by
    rw [sockets, List.length_map, List.countP_eq_length_filter]
  have hopen : ∀ e ∈ s.endpoints, e.isOpen = true →
      ∀ follow, s.machine.files.shown follow path = some (.socket e.backlog) := by
    intro e he hopen follow
    have hmem : e.backlog ∈ sockets s.endpoints := List.mem_map_of_mem (List.mem_filter.mpr ⟨he, hopen⟩)
    obtain ⟨socket, hsocket⟩ := List.length_eq_one_iff.mp (Nat.le_antisymm hkept.single (List.length_pos_of_mem hmem))
    rw [hsocket] at hmem
    rw [hkept.shown, hsocket, List.mem_singleton.mp hmem]
    rfl
  have hclosed : (∀ e ∈ s.endpoints, e.isOpen = false) → ∀ follow, s.machine.files.shown follow path = none := by
    intro hall follow
    rw [hkept.shown, sockets_eq_nil_iff.mpr hall]
    rfl
  have hthere : s.machine.files.contains path = true ↔ ∃ e ∈ s.endpoints, e.isOpen = true := by
    rw [Files.contains_eq_isSome_shown, hkept.shown, Option.isSome_map, List.isSome_head?]
    simp [sockets]
  refine ⟨hthere, hcount ▸ hkept.single, hopen, hclosed, fun i e hi hnot => ?_⟩
  have hclose : e.close s.machine = ([], e, s.machine) :=
    Endpoint.close_of_closed hnot ((hkept.settled e (List.mem_of_getElem? hi)).idle hnot)
  have hperform : s.close i = some s := by
    obtain ⟨hlt, rfl⟩ := List.getElem?_eq_some_iff.mp hi
    rw [Succession.close, Succession.use, hi, Option.map_some, hclose]
    simp only [List.set_getElem_self]
  refine ⟨hclose, hperform, ?_⟩
  rw [Succession.perform, hperform]
  rfl

/-- An old file is at the path when the first endpoint opens there. Someone has connected to the second one when the
    first one is closed once more. -/
theorem contains_iff_isOpen_replaced :
    let files : Files := ⟨[(["a"], ⟨.file [10], 0o644, 1⟩)], [], 2, [], 0o022⟩
    let connects : Move := .others fun m => (m.connect "a").2
    let moves : List Move := [.opens, connects, .accepts 0, .closes 0, .opens, connects, .closes 0, .accepts 1]
    let former : Endpoint := ⟨"a", 0, ⟨false, [], 1⟩⟩
    let newer : Endpoint := ⟨"a", 1, ⟨true, [⟨1, 1⟩], 1⟩⟩
    Move.opens ∈ moves ∧ ∃ s, (begin (.withFiles files)).run "a" moves = some s ∧ s.endpoints = [former, newer] ∧
      s.machine.files.contains "a" = true ∧ s.machine.files.shown true "a" = some (.socket 1) ∧
      former.close s.machine = ([], former, s.machine) := by
  intro files connects moves former newer
  have hopens : Move.opens ∈ moves := List.mem_cons_self
  have heval : ((begin (.withFiles files)).run "a" moves).map Succession.endpoints = some [former, newer] := by cbv
  obtain ⟨s, hrun, hs⟩ := Option.map_eq_some_iff.mp heval
  obtain ⟨hthere, -, hshown, -, hclosed⟩ := contains_iff_isOpen hopens hrun
  have hnewer : newer ∈ s.endpoints := hs ▸ List.mem_cons_of_mem former List.mem_cons_self
  refine ⟨hopens, s, hrun, hs, hthere.mpr ⟨newer, hnewer, rfl⟩, hshown newer hnewer rfl true, ?_⟩
  exact (hclosed 0 former (by rw [hs]; rfl) rfl).1

end Succession

end KeyFeed.Feed
