import FramedLink.Proofs.Threads.Serving.Reachable
import FramedLink.Proofs.Threads.Receiving.Reachable

namespace FramedLink.Threads

theorem Serving.hookMoves_of_log {w w' : Threads.World} (es : List Event)
    (h : w'.log = w.log ++ es) :
    Serving.hookMoves w w' = hooks es := by
  rw [Serving.hookMoves, h, hooks_append, List.drop_left]

theorem inFlight_of_hooks {l : List Event} (pre : List Hook) {d : Delivery}
    (h : hooks l = pre ++ [.enter d]) : inFlight l = some d := by
  unfold inFlight
  rw [h, List.getLast?_concat]

namespace World

variable {w : World}

theorem step_run_of_stage {t : Tid} {s : Stop} (hs : w.stage t = some s) :
    w.step (.run t) = w.stopStep t s := by
  cases t with
  | reader =>
    cases hr : w.reader <;> simp [stage, hr, ReaderAt.stage] at hs
    subst hs
    simp [step, readerStep, hr]
  | writer =>
    cases hx : w.writer <;> simp [stage, hx, WriterAt.stage] at hs
    subst hs
    simp [step, writerStep, hx]
  | caller i =>
    cases hc : w.callers i <;> simp [stage, hc, CallerAt.stage] at hs
    subst hs
    simp [step, callerStep, hc]

/-- `t` waits for the deliver lock: the reader to deliver a message, or a shutdown to deliver
`lost`. -/
def Waits (w : World) (t : Tid) : Prop :=
  (t = .reader ∧ ∃ off m last, w.reader = .awaitLock off m last) ∨
    ∃ r, w.stage t = some (.awaitLock r)

theorem Waits.congr {w w' : World} {t : Tid} (h : w.Waits t) (hs : w'.stage t = w.stage t)
    (hr : t = .reader → w'.reader = w.reader) : w'.Waits t := by
  rcases h with ⟨rfl, hw⟩ | ⟨r, hw⟩
  · exact .inl ⟨rfl, by rw [hr rfl]; exact hw⟩
  · exact .inr ⟨r, by rw [hs]; exact hw⟩

theorem Waits.take {t : Tid} (hw : w.Waits t) (hd : w.deliverer = none) :
    (w.step (.run t)).deliverer = some t ∧
      (Serving.hookMoves w (w.step (.run t)) = [] ∨
        Serving.hookMoves w (w.step (.run t)) = [.enter .lost]) := by
  rcases hw with ⟨rfl, off, m, last, hr⟩ | ⟨r, hs⟩
  · have hstep : w.step (.run .reader) = (w.lock .reader).setReader (.checkOpen off m last) := by
      simp [step, readerStep, hr, hd]
    rw [hstep, Serving.hookMoves_of_log [] (by simp)]
    exact ⟨rfl, .inl rfl⟩
  · have hstep : w.step (.run t) =
        ((w.lock t).emit (.hook (.enter .lost))).setStage (.deliverLost r) t := by
      rw [step_run_of_stage hs]
      simp [stopStep, hd]
    rw [hstep, Serving.hookMoves_of_log [.hook (.enter .lost)] (by simp)]
    exact ⟨by simp, .inr (by simp [Event.hook?])⟩

/-- The holder's next step returns from the hook call in flight, made with `d`, and releases the
lock. -/
def Leaves (w : World) (t : Tid) (d : Delivery) : Prop :=
  inFlight w.log = some d ∧ Serving.hookMoves w (w.step (.run t)) = [.leave d] ∧
    (w.step (.run t)).deliverer = none

theorem step_checkOpen {off : Nat} {m : Message} {last : ReadEnd}
    (hr : w.reader = .checkOpen off m last) :
    w.step (.run .reader) = if w.closed then w.unlock.setReader (.afterUnframe last)
      else (w.setReader (.delivering off m last)).emit (.hook (.enter (.message m))) := by
  simp [step, readerStep, hr]

theorem step_delivering {off : Nat} {m : Message} {last : ReadEnd}
    (hr : w.reader = .delivering off m last) :
    w.step (.run .reader) =
      (w.unlock.setReader (.unframe off last)).emit (.hook (.leave (.message m))) := by
  simp [step, readerStep, hr]

theorem step_deliverLost {t : Tid} {r : Option Error} (hs : w.stage t = some (.deliverLost r)) :
    w.step (.run t) = (w.unlock.emit (.hook (.leave .lost))).finish t true r :=
  step_run_of_stage hs

theorem leaves_delivering {off : Nat} {m : Message} {last : ReadEnd}
    (hr : w.reader = .delivering off m last) (hf : inFlight w.log = some (.message m)) :
    w.Leaves .reader (.message m) := by
  rw [Leaves, step_delivering hr, Serving.hookMoves_of_log [.hook (.leave (.message m))]
    (by simp)]
  exact ⟨hf, by simp [Event.hook?], rfl⟩

theorem leaves_deliverLost {t : Tid} {r : Option Error} (hs : w.stage t = some (.deliverLost r))
    (hf : inFlight w.log = some .lost) : w.Leaves t .lost := by
  rw [Leaves, step_deliverLost hs,
    Serving.hookMoves_of_log [.hook (.leave .lost), .returned t true r] (by simp)]
  exact ⟨hf, by simp [Event.hook?], by simp⟩

end World

theorem Stop.eq_deliverLost {s : Stop} (h : s.holdsLock = true) : ∃ r, s = .deliverLost r := by
  cases s <;> simp_all [Stop.holdsLock]

namespace Inv

variable {w : World}

/-- Where the holder of the deliver lock stands: the reader about to check that the channel is
open, the reader in the hook with a message, or a shutdown in the hook with `lost`; the hook
call in flight is the holder's. -/
theorem holder_cases (h : Inv w) {t : Tid} (hd : w.deliverer = some t) :
    (t = .reader ∧ ∃ off m last, w.reader = .checkOpen off m last) ∨
    (t = .reader ∧ ∃ off m last, w.reader = .delivering off m last ∧
      inFlight w.log = some (.message m)) ∨
    (∃ r, w.stage t = some (.deliverLost r) ∧ inFlight w.log = some .lost) := by
  have hh := (h.delivering.lock t).mp hd
  obtain ⟨ms, hms⟩ := h.delivering.hooks_eq
  -- a shutdown that holds the lock is delivering `lost`, the last hook call so far
  have lost : ∀ s, w.stage t = some s → ∃ r, w.stage t = some (.deliverLost r) ∧
      inFlight w.log = some .lost := by
    intro s hs
    obtain ⟨r, rfl⟩ := Stop.eq_deliverLost ((World.holds_of_stage hs).symm.trans hh)
    have hwins : wins w.log = [] := (h.closing.after_claim t _ hs rfl).2
    have hlosing : w.losing = true := by simp [World.losing, hd, hs]
    refine ⟨r, hs, inFlight_of_hooks (calls ms) ?_⟩
    rw [hms, h.inFlight_of_holder hd hs, World.lostTail]
    simp [hwins, hlosing]
  cases t with
  | reader =>
    cases hr : w.reader with
    | checkOpen off m last => exact .inl ⟨rfl, off, m, last, rfl⟩
    | delivering off m last =>
      obtain ⟨hwins, hlosing⟩ := h.delivering.inFlight_open (by simp [hr, ReaderAt.inFlight])
      refine .inr (.inl ⟨rfl, off, m, last, rfl, inFlight_of_hooks (calls ms) ?_⟩)
      rw [hms, hr, World.lostTail]
      simp [hwins, hlosing, ReaderAt.inFlight]
    | stopping s => exact .inr (.inr (lost s (by simp [World.stage, hr, ReaderAt.stage])))
    | read | unframe _ _ | awaitLock _ _ _ | afterUnframe _ | exited =>
      simp [World.holds, hr, ReaderAt.holdsLock] at hh
  | writer =>
    cases hx : w.writer with
    | stopping s => exact .inr (.inr (lost s (by simp [World.stage, hx, WriterAt.stage])))
    | pop | writing _ | exited => simp [World.holds, hx, WriterAt.holdsLock] at hh
  | caller i =>
    cases hc : w.callers i with
    | stopping s => exact .inr (.inr (lost s (by simp [World.stage, hc, CallerAt.stage])))
    | idle | sending _ | pushing _ _ => simp [World.holds, hc, CallerAt.holdsLock] at hh

theorem waits_ne (h : Inv w) {t t' : Tid} (hd : w.deliverer = some t) (hw : w.Waits t') :
    t' ≠ t := by
  rintro rfl
  have hh := (h.delivering.lock t').mp hd
  rcases hw with ⟨rfl, off, m, last, hr⟩ | ⟨r, hs⟩
  · simp [World.holds, hr, ReaderAt.holdsLock] at hh
  · rw [World.holds_of_stage hs] at hh
    cases hh

/-- The holder's next step releases the lock, either returning from the hook or finding the
channel closed before calling it; or it calls the hook with a message, and its step after
returns from that call and releases the lock. -/
theorem holder_next (h : Inv w) {t : Tid} (hd : w.deliverer = some t) :
    (∃ d, w.Leaves t d) ∨
    (Serving.hookMoves w (w.step (.run t)) = [] ∧ (w.step (.run t)).deliverer = none) ∨
    (∃ d, Serving.hookMoves w (w.step (.run t)) = [.enter d] ∧
      (w.step (.run t)).deliverer = some t ∧ (w.step (.run t)).Leaves t d) := by
  rcases h.holder_cases hd with ⟨rfl, off, m, last, hr⟩ | ⟨rfl, off, m, last, hr, hf⟩ |
    ⟨r, hs, hf⟩
  · rw [World.step_checkOpen hr]
    by_cases hc : w.closed
    · simp only [hc, if_true]
      rw [Serving.hookMoves_of_log [] (by simp)]
      exact .inr (.inl ⟨rfl, rfl⟩)
    · simp only [hc, Bool.false_eq_true, if_false]
      -- the call just made is the one in flight, and the reader's next step returns from it
      have hlog : ((w.setReader (.delivering off m last)).emit (.hook (.enter (.message m)))).log =
          w.log ++ [.hook (.enter (.message m))] := by simp
      have hflight : inFlight ((w.setReader (.delivering off m last)).emit
          (.hook (.enter (.message m)))).log = some (.message m) :=
        inFlight_of_hooks (hooks w.log) (by rw [hlog]; simp [Event.hook?])
      rw [Serving.hookMoves_of_log _ hlog]
      exact .inr (.inr ⟨.message m, by simp [Event.hook?], by simp [hd],
        World.leaves_delivering rfl hflight⟩)
  · exact .inl ⟨_, World.leaves_delivering hr hf⟩
  · exact .inl ⟨_, World.leaves_deliverLost hs hf⟩

theorem waits_holder_step (h : Inv w) {t t' : Tid} (hd : w.deliverer = some t)
    (hw : w.Waits t') : (w.step (.run t)).Waits t' := by
  have hne := h.waits_ne hd hw
  rcases h.holder_cases hd with ⟨rfl, off, m, last, hr⟩ | ⟨rfl, off, m, last, hr, -⟩ |
    ⟨r, hs, -⟩
  · rw [World.step_checkOpen hr]
    split
    · exact hw.congr (by simp [World.stage_setReader, hne]) (fun h => absurd h hne)
    · exact hw.congr (by simp [World.stage_setReader, hne]) (fun h => absurd h hne)
  · rw [World.step_delivering hr]
    exact hw.congr (by simp [World.stage_setReader, hne]) (fun h => absurd h hne)
  · rw [World.step_deliverLost hs]
    refine hw.congr (by simp [World.stage_finish, hne]) (fun hr => ?_)
    subst hr
    simp [World.finish_reader, Ne.symm hne]

end Inv

namespace Serving

namespace Conn

variable {c : Conn} {a : Threads.Act}

theorem advance_of_none (hm : hookMoves c.chan (c.chan.step a) = []) :
    c.advance a = { c with chan := c.chan.step a } := by
  simp [advance, hm]

theorem advance_of_enter {d : Delivery} (hm : hookMoves c.chan (c.chan.step a) = [.enter d]) :
    c.advance a = { c with chan := c.chan.step a, body := Body.start d } := by
  simp [advance, hm]

theorem advance_of_leave {d : Delivery} (hm : hookMoves c.chan (c.chan.step a) = [.leave d])
    (hb : c.body = .done) : c.advance a = { c with chan := c.chan.step a, body := .free } := by
  simp [advance, hm, hb]

end Conn

namespace World

variable {w : World} {k : Nat} {c : Conn}

theorem run_append (w : World) (acts acts' : List Act) :
    w.run (acts ++ acts') = (w.run acts).run acts' := List.foldl_append

theorem conns_enqueue (w : World) (e : Envelope) (k : Option Nat) : (w.enqueue e k).conns = w.conns := by
  unfold enqueue
  split <;> rfl

theorem setConn_self (hc : w.conns[k]? = some c) (c' : Conn) : (w.setConn k c').conns[k]? = some c' :=
  List.getElem?_set_self (List.getElem?_eq_some_iff.mp hc).1

theorem chanStep_run (hc : w.conns[k]? = some c) (t : Tid) :
    w.step (.chan k (.run t)) = w.setConn k (c.advance (.run t)) := by
  simp [step, chanStep, hc]

theorem hook_done (hc : w.conns[k]? = some c) (hb : c.body ≠ .free) :
    ∃ n ≤ 2, ∃ c', (w.run (List.replicate n (.hook k))).conns[k]? = some c' ∧
      c'.chan = c.chan ∧ c'.body = .done := by
  have push : ∀ (v : World) (cv : Conn) (m : Message), v.conns[k]? = some cv → cv.body = .push m →
      (v.step (.hook k)).conns[k]? = some { cv with body := .done } := by
    intro v cv m hv hb
    simp only [step, hookStep, hv, hb]
    rw [conns_enqueue, setBody_of hv]
    exact setConn_self hv _
  cases hbody : c.body with
  | free => exact absurd hbody hb
  | done => exact ⟨0, by omega, c, hc, rfl, hbody⟩
  | push m => exact ⟨1, by omega, _, push w c m hc hbody, rfl, rfl⟩
  | forget =>
    -- `forget` drops the connection from the table and leaves the push of `clientLost` to do
    obtain ⟨c₁, hc₁, hchan, hb₁⟩ : ∃ c₁, (w.step (.hook k)).conns[k]? = some c₁ ∧
        c₁.chan = c.chan ∧ c₁.body = .push (.signal .clientLost) := by
      have hstep : w.step (.hook k) = (w.forget k).setBody k (.push (.signal .clientLost)) := by
        simp [step, hookStep, hc, hbody]
      obtain ⟨c₀, hc₀, hch₀⟩ : ∃ c₀, (w.forget k).conns[k]? = some c₀ ∧ c₀.chan = c.chan := by
        cases hl : c.listed
        · exact ⟨c, by simp [forget, hc, hl], rfl⟩
        · have hset := setConn_self hc { c with listed := false }
          rw [forget_of_listed hc hl]
          exact ⟨{ c with listed := false }, by simpa using hset, rfl⟩
      rw [hstep, setBody_of hc₀]
      exact ⟨_, setConn_self hc₀ _, hch₀, rfl⟩
    exact ⟨2, by omega, _, push _ c₁ _ hc₁ hb₁, hchan, rfl⟩

theorem leaves_released (h : Good w) (hc : w.conns[k]? = some c) {t : Tid} {d : Delivery}
    (hl : c.chan.Leaves t d) :
    ∃ acts : List Act, acts.length ≤ 3 ∧ (∀ a ∈ acts, a = .chan k (.run t) ∨ a = .hook k) ∧
      ∃ c', (w.run acts).conns[k]? = some c' ∧ c'.chan = c.chan.step (.run t) := by
  have hbusy : c.body ≠ .free := fun hb => by
    have hf := hl.1
    rw [(h.conns k c hc).free_iff.mp hb] at hf
    cases hf
  obtain ⟨n, hn, c₁, hc₁, hchan, hdone⟩ := hook_done hc hbusy
  refine ⟨List.replicate n (.hook k) ++ [.chan k (.run t)], by simp; omega, ?_, ?_⟩
  · intro a ha
    simp only [List.mem_append, List.mem_replicate, List.mem_singleton] at ha
    rcases ha with ⟨-, rfl⟩ | rfl
    · exact .inr rfl
    · exact .inl rfl
  · have hm : hookMoves c₁.chan (c₁.chan.step (.run t)) = [.leave d] := by
      rw [hchan]
      exact hl.2.1
    refine ⟨{ c₁ with chan := c₁.chan.step (.run t), body := .free }, ?_, by simp [hchan]⟩
    rw [run_append, run_cons, run_nil, chanStep_run hc₁, Conn.advance_of_leave hm hdone,
      setConn_self hc₁]

theorem released (h : Good w) (hc : w.conns[k]? = some c) {t : Tid}
    (hd : c.chan.deliverer = some t) :
    ∃ acts : List Act, acts.length ≤ 4 ∧ (∀ a ∈ acts, a = .chan k (.run t) ∨ a = .hook k) ∧
      ∃ c', (w.run acts).conns[k]? = some c' ∧ c'.chan.deliverer = none ∧
        ∀ t', c.chan.Waits t' → c'.chan.Waits t' := by
  have hi := (h.conns k c hc).inv
  rcases hi.holder_next hd with ⟨d, hl⟩ | ⟨hm, hfree⟩ | ⟨d, hm, hd₁, hl⟩
  · obtain ⟨acts, hlen, hacts, c', hc', hchan⟩ := leaves_released h hc hl
    refine ⟨acts, by omega, hacts, c', hc', by rw [hchan]; exact hl.2.2, fun t' hw => ?_⟩
    rw [hchan]
    exact hi.waits_holder_step hd hw
  · refine ⟨[.chan k (.run t)], by simp, by simp, { c with chan := c.chan.step (.run t) }, ?_,
      hfree, fun t' hw => ?_⟩
    · rw [run_cons, run_nil, chanStep_run hc, Conn.advance_of_none hm, setConn_self hc]
    · exact hi.waits_holder_step hd hw
  · -- the holder calls the hook with a message: the server's side starts, then it returns
    have hc₁ := setConn_self hc (c.advance (.run t))
    rw [Conn.advance_of_enter hm] at hc₁
    have h₁ : Good (w.step (.chan k (.run t))) := h.step _
    rw [chanStep_run hc, Conn.advance_of_enter hm] at h₁
    obtain ⟨acts, hlen, hacts, c', hc', hchan⟩ := leaves_released h₁ hc₁ hl
    refine ⟨.chan k (.run t) :: acts, by simp; omega, ?_, c', ?_, ?_, fun t' hw => ?_⟩
    · intro a ha
      rcases List.mem_cons.mp ha with rfl | ha
      · exact .inl rfl
      · exact hacts a ha
    · rw [run_cons, chanStep_run hc, Conn.advance_of_enter hm]
      exact hc'
    · rw [hchan]
      exact hl.2.2
    · rw [hchan]
      exact (hi.step _).waits_holder_step hd₁ (hi.waits_holder_step hd hw)

end World

end Serving

namespace Receiving

namespace World

variable {w : World} {a : Threads.Act}

theorem advance_of_none (hm : Serving.hookMoves w.chan (w.chan.step a) = []) :
    w.advance a = w.setChan (w.chan.step a) := by
  simp [advance, hm]

theorem advance_of_enter {d : Delivery} (hm : Serving.hookMoves w.chan (w.chan.step a) = [.enter d]) :
    w.advance a = (w.setChan (w.chan.step a)).setBody (.push (Client.received d)) := by
  simp [advance, hm]

theorem advance_of_leave {d : Delivery} (hm : Serving.hookMoves w.chan (w.chan.step a) = [.leave d])
    (hb : w.body = .done) : w.advance a = (w.setChan (w.chan.step a)).setBody .free := by
  simp [advance, hm, hb]

theorem chan_run (t : Tid) : w.step (.chan (.run t)) = w.advance (.run t) := rfl

theorem hook_done (hb : w.body ≠ .free) :
    ∃ n ≤ 3, (w.run (List.replicate n .hook)).chan = w.chan ∧
      (w.run (List.replicate n .hook)).body = .done := by
  have notify : ∀ v : World, v.body = .notify →
      (v.step .hook).chan = v.chan ∧ (v.step .hook).body = .done := by
    intro v hv
    simp [step, hookStep, hv]
  have signal : ∀ v : World, v.body = .signal →
      ((v.step .hook).step .hook).chan = v.chan ∧ ((v.step .hook).step .hook).body = .done := by
    intro v hv
    have h₁ : (v.step .hook).body = .notify := by simp [step, hookStep, hv]
    obtain ⟨h₂, h₃⟩ := notify _ h₁
    exact ⟨h₂.trans (by simp [step, hookStep, hv]), h₃⟩
  cases hbody : w.body with
  | free => exact absurd hbody hb
  | done => exact ⟨0, by omega, rfl, hbody⟩
  | notify => exact ⟨1, by omega, notify w hbody⟩
  | signal => exact ⟨2, by omega, signal w hbody⟩
  | push m =>
    cases hq : w.inbox.inbox.push m with
    | none => exact ⟨1, by omega, by simp [step, hookStep, hbody, hq], by simp [step, hookStep, hbody, hq]⟩
    | some q =>
      -- the inbox took the push: the hand-over of the token and the notify hook follow
      have h₁ : (w.step .hook).body = .signal := by simp [step, hookStep, hbody, hq]
      obtain ⟨h₂, h₃⟩ := signal _ h₁
      exact ⟨3, by omega, h₂.trans (by simp [step, hookStep, hbody, hq]), h₃⟩

theorem leaves_released {r : Registry} (h : Good r w) {t : Tid} {d : Delivery}
    (hl : w.chan.Leaves t d) :
    ∃ acts : List Act, acts.length ≤ 4 ∧ (∀ a ∈ acts, a = .chan (.run t) ∨ a = .hook) ∧
      (w.run acts).chan = w.chan.step (.run t) := by
  have hbusy : w.body ≠ .free := fun hb => by
    have hf := hl.1
    rw [h.free_iff.mp hb] at hf
    cases hf
  obtain ⟨n, hn, hchan, hdone⟩ := hook_done hbusy
  refine ⟨List.replicate n .hook ++ [.chan (.run t)], by simp; omega, ?_, ?_⟩
  · intro a ha
    simp only [List.mem_append, List.mem_replicate, List.mem_singleton] at ha
    rcases ha with ⟨-, rfl⟩ | rfl
    · exact .inr rfl
    · exact .inl rfl
  · have hm : Serving.hookMoves (w.run (List.replicate n .hook)).chan
        ((w.run (List.replicate n .hook)).chan.step (.run t)) = [.leave d] := by
      rw [hchan]
      exact hl.2.1
    rw [run_append, run_cons, run_nil, chan_run, advance_of_leave hm hdone]
    simp [hchan]

theorem released {r : Registry} (h : Good r w) {t : Tid} (hd : w.chan.deliverer = some t) :
    ∃ acts : List Act, acts.length ≤ 5 ∧ (∀ a ∈ acts, a = .chan (.run t) ∨ a = .hook) ∧
      (w.run acts).chan.deliverer = none ∧ ∀ t', w.chan.Waits t' → (w.run acts).chan.Waits t' := by
  rcases h.inv.holder_next hd with ⟨d, hl⟩ | ⟨hm, hfree⟩ | ⟨d, hm, hd₁, hl⟩
  · obtain ⟨acts, hlen, hacts, hchan⟩ := leaves_released h hl
    refine ⟨acts, by omega, hacts, by rw [hchan]; exact hl.2.2, fun t' hw => ?_⟩
    rw [hchan]
    exact h.inv.waits_holder_step hd hw
  · refine ⟨[.chan (.run t)], by simp, by simp, ?_, fun t' hw => ?_⟩
    · rw [run_cons, run_nil, chan_run, advance_of_none hm]
      exact hfree
    · rw [run_cons, run_nil, chan_run, advance_of_none hm]
      exact h.inv.waits_holder_step hd hw
  · -- the holder calls the hook with a message: the client's side starts, then it returns
    have h₁ : Good r (w.step (.chan (.run t))) := h.step _
    rw [chan_run, advance_of_enter hm] at h₁
    obtain ⟨acts, hlen, hacts, hchan⟩ := leaves_released h₁ (by simpa using hl)
    refine ⟨.chan (.run t) :: acts, by simp; omega, ?_, ?_, fun t' hw => ?_⟩
    · intro a ha
      rcases List.mem_cons.mp ha with rfl | ha
      · exact .inl rfl
      · exact hacts a ha
    · rw [run_cons, chan_run, advance_of_enter hm, hchan]
      simpa using hl.2.2
    · rw [run_cons, chan_run, advance_of_enter hm, hchan]
      simpa using (h.inv.step _).waits_holder_step hd₁ (h.inv.waits_holder_step hd hw)

end World

end Receiving

/-- No run of a server or a client deadlocks on a deliver lock: its holder releases it within
four (server) or five (client) steps of its own and of the hook, and every waiting thread stays
ready to take it. -/
theorem deliver_lock_released (r : Registry) :
    (∀ acts : List Serving.Act, let w := (Serving.World.fresh r).run acts
      ∀ k c t, w.conns[k]? = some c → c.chan.deliverer = some t →
        ∃ acts' : List Serving.Act, acts'.length ≤ 4 ∧
          (∀ a ∈ acts', a = .chan k (.run t) ∨ a = .hook k) ∧
          ∃ c', (w.run acts').conns[k]? = some c' ∧ c'.chan.deliverer = none ∧
            ∀ t', c.chan.Waits t' → ∃ c'', ((w.run acts').step (.chan k (.run t'))).conns[k]? =
              some c'' ∧ c''.chan.deliverer = some t') ∧
    (∀ acts : List Receiving.Act, let w := (Receiving.World.fresh r).run acts
      ∀ t, w.chan.deliverer = some t →
        ∃ acts' : List Receiving.Act, acts'.length ≤ 5 ∧
          (∀ a ∈ acts', a = .chan (.run t) ∨ a = .hook) ∧
          (w.run acts').chan.deliverer = none ∧
          ∀ t', w.chan.Waits t' → ((w.run acts').step (.chan (.run t'))).chan.deliverer = some t') := by
  constructor
  · intro acts w k c t hc hd
    obtain ⟨acts', hlen, hacts, c', hc', hfree, hwaits⟩ :=
      Serving.World.released (Serving.good_run r acts) hc hd
    refine ⟨acts', hlen, hacts, c', hc', hfree, fun t' hw => ?_⟩
    obtain ⟨htake, hm⟩ := (hwaits t' hw).take hfree
    rw [Serving.World.chanStep_run hc']
    rcases hm with hm | hm
    · rw [Serving.Conn.advance_of_none hm]
      exact ⟨_, Serving.World.setConn_self hc' _, htake⟩
    · rw [Serving.Conn.advance_of_enter hm]
      exact ⟨_, Serving.World.setConn_self hc' _, htake⟩
  · intro acts w t hd
    obtain ⟨acts', hlen, hacts, hfree, hwaits⟩ := Receiving.World.released (Receiving.good_run r acts) hd
    refine ⟨acts', hlen, hacts, hfree, fun t' hw => ?_⟩
    obtain ⟨htake, hm⟩ := (hwaits t' hw).take hfree
    rw [Receiving.World.chan_run]
    rcases hm with hm | hm
    · rw [Receiving.World.advance_of_none hm]
      exact htake
    · rw [Receiving.World.advance_of_enter hm]
      exact htake

end FramedLink.Threads
