import FramedLink.Proofs.Threads.Serving.Invariant

namespace FramedLink.Threads.Serving

open FramedLink.Threads.Serving.World

namespace World

@[simp] theorem registry_enqueue (w : World) (e : Envelope) (k : Option Nat) :
    (w.enqueue e k).registry = w.registry := by
  unfold enqueue
  split <;> rfl

@[simp] theorem registry_forget (w : World) (k : Nat) : (w.forget k).registry = w.registry := by
  unfold forget
  split
  · split <;> rfl
  · rfl

@[simp] theorem registry_setBody (w : World) (k : Nat) (b : Body) :
    (w.setBody k b).registry = w.registry := by
  unfold setBody
  split <;> rfl

theorem registry_step (w : World) (a : Act) : (w.step a).registry = w.registry := by
  -- each part of the code is built of changes that leave the registry alone
  cases a <;> simp only [step, ifIdle, add, send, disconnect, disconnectAll, close, runCaller,
    chanStep, hookStep, receive] <;> (repeat' split) <;> simp

theorem registry_run (w : World) (acts : List Act) : (w.run acts).registry = w.registry := by
  induction acts generalizing w with
  | nil => rfl
  | cons a acts ih => exact (ih (w.step a)).trans (registry_step w a)

end World

namespace Good

variable {w : World}

theorem mem_table_iff (h : Good w) {k : Nat} :
    k ∈ w.table ↔ (∃ u, registeredAs k u w.log = true) ∧ forgotIn k w.log = false := by
  rw [mem_table]
  constructor
  · rintro ⟨c, hc, hl⟩
    have hok := h.conns k c hc
    refine ⟨⟨c.id, (hok.registered c.id).mpr rfl⟩, ?_⟩
    rw [hok.listed] at hl
    simpa using hl
  · rintro ⟨⟨u, hr⟩, hf⟩
    cases hc : w.conns[k]? with
    | none =>
      -- a number past the end has no note, so no registration
      have hlen : w.conns.length ≤ k := List.getElem?_eq_none_iff.mp hc
      rw [(quiet_notes (h.unused k hlen)).2.2 u] at hr
      cases hr
    | some c =>
      refine ⟨c, rfl, ?_⟩
      rw [(h.conns k c hc).listed, hf]
      rfl

theorem forgotIn_of_lookup (h : Good w) {u : ConnId} (hl : w.lookup u = none) {k : Nat}
    (hr : registeredAs k u w.log = true) : forgotIn k w.log = true := by
  cases hf : forgotIn k w.log with
  | true => rfl
  | false =>
    obtain ⟨c, hc, hlisted⟩ := mem_table.mp (h.mem_table_iff.mpr ⟨⟨u, hr⟩, hf⟩)
    exact absurd (((h.conns k c hc).registered u).mp hr).symm (lookup_eq_none hl hc hlisted)

theorem inbox_open (h : Good w) (hc : w.closed = false) : w.inbox.disposed = false := by
  cases hd : w.inbox.disposed
  · rfl
  · rw [h.disposed_closed hd] at hc
    cases hc

theorem unused_append (h : Good w) {k : Nat} (hk : w.conns.length ≤ k) {ns : List Note}
    (hq : ∀ n ∈ ns, n.about k = false) : ∀ n ∈ w.log ++ ns, n.about k = false := by
  intro n hn
  rcases List.mem_append.mp hn with hn | hn
  · exact h.unused k hk n hn
  · exact hq n hn

theorem setDoing (h : Good w) {j : Nat} {d : Doing} (hd : DoingOk w.closed j d) :
    Good (w.setDoing j d) := by
  refine ⟨h.conns, h.unused, h.closed_eq, h.disposed_eq, h.disposed_closed, fun j' => ?_, h.log⟩
  by_cases hj : j' = j
  · subst hj
    simpa using hd
  · simpa [Function.update_of_ne hj] using h.callers j'

theorem setInbox (h : Good w) {q : Inbox Envelope} (hq : q.disposed = w.inbox.disposed) :
    Good (w.setInbox q) :=
  ⟨h.conns, h.unused, h.closed_eq, hq.trans h.disposed_eq, fun hd => h.disposed_closed (hq ▸ hd),
    h.callers, h.log⟩

theorem ifIdle (h : Good w) {w' : World} (h' : Good w') (j : Nat) : Good (w.ifIdle j w') := by
  unfold World.ifIdle
  split
  · exact h'
  · exact h

theorem note (h : Good w) {n : Note} (hfit : Fits w.log n) (hq : ∀ k, n.about k = false)
    (hc : n.isClosing = false) (hd : n.isDisposed = false) (he : n.envelope? = none) :
    Good (w.note n) := by
  refine ⟨fun k c hc' => (h.conns k c hc').quiet (by simpa using hq k),
    fun k hk => h.unused_append hk (by simpa using hq k), ?_, ?_, h.disposed_closed, h.callers,
    h.log.concat hfit hc (by simp [he])⟩
  · simp [h.closed_eq, hc]
  · simp [h.disposed_eq, hd]

theorem returned (h : Good w) (j : Nat) (r : Option Error) : Good (w.note (.returned j r)) :=
  h.note trivial (fun _ => rfl) rfl rfl rfl

theorem setConn (h : Good w) {k : Nat} {c c' : Conn} (hc : w.conns[k]? = some c)
    (hk : ConnOk w.registry w.log k c') : Good (w.setConn k c') := by
  have hlt : k < w.conns.length := (List.getElem?_eq_some_iff.mp hc).1
  refine ⟨fun k' c'' hc'' => ?_, fun k' hk' => h.unused k' (by simpa using hk'), h.closed_eq,
    h.disposed_eq, h.disposed_closed, h.callers, h.log⟩
  by_cases hkk : k = k'
  · subst hkk
    rw [setConn_conns, List.getElem?_set_self hlt] at hc''
    cases hc''
    exact hk
  · rw [setConn_conns, List.getElem?_set_ne hkk] at hc''
    exact h.conns k' c'' hc''

theorem touch (h : Good w) {w' : World} {k : Nat} {c c' : Conn} {n : Note}
    (hc : w.conns[k]? = some c) (hreg : w'.registry = w.registry)
    (hconns : w'.conns = w.conns.set k c') (hlog : w'.log = w.log ++ [n])
    (hclosed : w'.closed = w.closed) (hdisp : w'.inbox.disposed = w.inbox.disposed)
    (hcallers : w'.callers = w.callers) (hk : ConnOk w.registry (w.log ++ [n]) k c')
    (hq : ∀ k', k' ≠ k → n.about k' = false) (hfit : Fits w.log n) (hcl : n.isClosing = false)
    (hd : n.isDisposed = false) (he : ∀ e, n.envelope? = some e → e.id ≠ ConnId.nil) :
    Good w' := by
  have hlt : k < w.conns.length := (List.getElem?_eq_some_iff.mp hc).1
  refine ⟨fun k' c'' hc'' => ?_, fun k' hk' n' hn' => ?_, ?_, ?_, ?_, ?_, ?_⟩
  · rw [hreg, hlog]
    rw [hconns] at hc''
    by_cases hkk : k = k'
    · subst hkk
      rw [List.getElem?_set_self hlt] at hc''
      cases hc''
      exact hk
    · rw [List.getElem?_set_ne hkk] at hc''
      exact (h.conns k' c'' hc'').quiet (by simpa using hq k' (Ne.symm hkk))
  · rw [hconns, List.length_set] at hk'
    rw [hlog] at hn'
    exact h.unused_append hk' (by simpa using hq k' (by omega)) n' hn'
  · rw [hclosed, hlog, closedIn_concat, hcl, Bool.or_false]
    exact h.closed_eq
  · rw [hdisp, hlog, disposedIn_concat, hd, Bool.or_false]
    exact h.disposed_eq
  · rw [hdisp, hclosed]
    exact h.disposed_closed
  · rw [hcallers, hclosed]
    exact h.callers
  · rw [hlog]
    exact h.log.concat hfit hcl he

theorem chanStep (h : Good w) (k : Nat) (a : Threads.Act) : Good (w.chanStep k a) := by
  unfold World.chanStep
  split
  · exact h
  · exact h
  · split
    · next c hc => exact h.setConn hc ((h.conns k c hc).advance a)
    · exact h

theorem forgets (h : Good w) {k : Nat} {c : Conn} (hc : w.conns[k]? = some c)
    (hb : c.body = .forget) : Good ((w.forget k).setBody k (.push (.signal .clientLost))) := by
  have hok := h.conns k c hc
  have hlt : k < w.conns.length := (List.getElem?_eq_some_iff.mp hc).1
  cases hl : c.listed with
  | false =>
    have hf : w.forget k = w := by simp [World.forget, hc, hl]
    rw [hf, setBody_of hc]
    exact h.setConn hc (hok.forgotten_again hb hl)
  | true =>
    have hnf : forgotIn k w.log = false := by simpa [hl] using hok.listed.symm
    have hc' : ((w.setConn k { c with listed := false }).note (.forgot k)).conns[k]? =
        some { c with listed := false } := by simp [hlt]
    rw [forget_of_listed hc hl, setBody_of hc']
    refine h.touch hc rfl (by simp [List.set_set]) rfl rfl rfl rfl (hok.forgotten hb)
      (fun k' hk' => ?_) hnf rfl rfl (by simp [Note.envelope?])
    simp [Note.about, Ne.symm hk']

theorem pushes (h : Good w) {k : Nat} {c : Conn} (hc : w.conns[k]? = some c) {m : Message}
    (hb : c.body = .push m) : Good ((w.setBody k .done).enqueue ⟨c.id, m⟩ (some k)) := by
  have hok := h.conns k c hc
  obtain ⟨hne, hlost, hafter⟩ := hok.push_fits hb
  have hfit : ∀ b, disposedIn w.log = b →
      Fits w.log (if b then .dropped ⟨c.id, m⟩ (some k) else .pushed ⟨c.id, m⟩ (some k)) := by
    rintro (_ | _) hb'
    · exact ⟨hb', (hok.registered c.id).mpr rfl, fun hs => absurd hs hne, hlost, hafter⟩
    · exact hb'
  rw [setBody_of hc]
  cases hpush : w.inbox.push ⟨c.id, m⟩ with
  | none =>
    have hpush' : (w.setConn k { c with body := .done }).inbox.push ⟨c.id, m⟩ = none := hpush
    rw [enqueue_of_push_none hpush']
    have hdisp : disposedIn w.log = true := by
      rw [← h.disposed_eq]
      exact Inbox.push_eq_none_iff.mp hpush
    refine h.touch hc rfl rfl rfl rfl rfl rfl (hok.pushes hb
      (show (Note.dropped ⟨c.id, m⟩ (some k)).sent k = some (m, false) by simp [Note.sent]) rfl
      fun _ => rfl) (fun k' hk' => by simp [Note.about, Ne.symm hk']) (hfit true hdisp) rfl rfl
      (by simp [Note.envelope?])
  | some q =>
    have hpush' : (w.setConn k { c with body := .done }).inbox.push ⟨c.id, m⟩ = some q := hpush
    rw [enqueue_of_push hpush']
    have hdisp : disposedIn w.log = false := h.disposed_eq ▸ Inbox.disposed_of_push hpush
    refine h.touch hc rfl rfl rfl rfl (Inbox.push_disposed hpush) rfl
      (hok.pushes hb
        (show (Note.pushed ⟨c.id, m⟩ (some k)).sent k = some (m, true) by simp [Note.sent]) rfl
        fun _ => rfl)
      (fun k' hk' => by simp [Note.about, Ne.symm hk']) (hfit false hdisp) rfl rfl
      (fun e he => by cases he; exact hok.id_ne)

theorem hookStep (h : Good w) (k : Nat) : Good (w.hookStep k) := by
  unfold World.hookStep
  split
  · next c hc =>
    split
    · next hb => exact h.forgets hc hb
    · next m hb => exact h.pushes hc hb
    · exact h
    · exact h
  · exact h

theorem receive (h : Good w) : Good w.receive := by
  unfold World.receive
  split
  · next e q hq =>
    exact (h.setInbox (Inbox.take_disposed hq)).note trivial (fun _ => rfl) rfl rfl rfl
  · exact h

theorem registers (h : Good w) {j : Nat} {u : ConnId} (hu : u ≠ ConnId.nil)
    (hclosed : w.closed = false) (hl : w.lookup u = none) :
    Good (({ w with
        conns := w.conns ++ [Conn.mk u (Threads.World.fresh w.registry) true .free] }.note
      (.add j u true (.registered w.conns.length))).enqueue ⟨u, .signal .joined⟩
      (some w.conns.length)) := by
  have hnd : w.inbox.disposed = false := h.inbox_open hclosed
  obtain ⟨q, hq⟩ := Inbox.exists_push hnd ⟨u, .signal .joined⟩
  simp only [World.enqueue, note_inbox, hq]
  have hcl : closedIn w.log = false := h.closed_eq ▸ hclosed
  -- the new connection's number is past every note so far
  have hnew : ∀ n ∈ w.log, n.about w.conns.length = false := h.unused _ (Nat.le_refl _)
  have hother : ∀ k', k' ≠ w.conns.length →
      ∀ n ∈ [Note.add j u true (.registered w.conns.length)] ++
        [.pushed ⟨u, .signal .joined⟩ (some w.conns.length)], n.about k' = false := by
    intro k' hk' n hn
    simp only [List.mem_append, List.mem_singleton] at hn
    rcases hn with rfl | rfl <;> simp [Note.about, Ne.symm hk']
  have hfa : Fits w.log (.add j u true (.registered w.conns.length)) :=
    ⟨fun _ _ hc => absurd hc (by simp [hcl]), fun _ _ k' hr => h.forgotIn_of_lookup hl hr⟩
  have hfp : Fits (w.log ++ [.add j u true (.registered w.conns.length)])
      (.pushed ⟨u, .signal .joined⟩ (some w.conns.length)) := by
    have hnf : forgotIn w.conns.length (w.log ++ [.add j u true (.registered w.conns.length)]) =
        false := by
      rw [forgotIn_concat, (quiet_notes hnew).1]
      rfl
    refine ⟨by simp [← h.disposed_eq, hnd, Note.isDisposed], by simp [Note.registers],
      fun _ => ⟨rfl, by simp [hcl, Note.isClosing]⟩, (fun hl => by cases hl), ?_⟩
    rw [hnf]
    intro hf
    cases hf
  refine ⟨fun k' c hc => ?_, fun k' hk' n hn => ?_, ?_, ?_, ?_, h.callers, ?_⟩
  · simp only [note_conns, setInbox_conns, note_registry, setInbox_registry, note_log,
      setInbox_log] at hc ⊢
    rw [List.append_assoc]
    -- the connections already there are untouched by the two notes; the new one is the last
    rcases Nat.lt_or_ge k' w.conns.length with hlt | hge
    · rw [List.getElem?_append_left hlt] at hc
      exact (h.conns k' c hc).quiet (hother k' (Nat.ne_of_lt hlt))
    · rw [List.getElem?_append_right hge, List.getElem?_singleton] at hc
      split at hc
      · cases hc
        obtain rfl : k' = w.conns.length := by omega
        rw [← List.append_assoc]
        exact ConnOk.fresh hu hnew j (b := true) (by simp [Note.sent]) rfl fun _ => rfl
      · cases hc
  · simp only [note_conns, setInbox_conns, List.length_append, List.length_singleton] at hk'
    simp only [note_log, setInbox_log, List.append_assoc] at hn
    exact h.unused_append (by omega) (hother k' (by omega)) n hn
  · simp only [note_closed, setInbox_closed, note_log, setInbox_log, closedIn_concat, h.closed_eq,
      Note.isClosing, Bool.or_false]
  · simp only [note_inbox, setInbox_inbox, note_log, setInbox_log, disposedIn_concat,
      Inbox.push_disposed hq, h.disposed_eq, Note.isDisposed, Bool.or_false]
  · intro hd
    rw [note_inbox, setInbox_inbox, Inbox.push_disposed hq] at hd
    exact h.disposed_closed hd
  · exact (h.log.concat hfa rfl (by simp [Note.envelope?])).concat hfp rfl
      (fun e he => by cases he; exact hu)

theorem add (h : Good w) (j : Nat) (u : ConnId) (s : Bool) : Good (w.add j u s) := by
  have hq : ∀ (e : Error) (b : Bool) k, (Note.add j u s (.refused e b)).about k = false :=
    fun _ _ _ => rfl
  unfold World.add
  split
  · next hs =>
    refine h.note ⟨fun hs' => by simp [hs'] at hs, fun k hk => by cases hk⟩ (hq _ _) rfl rfl rfl
  · split
    · next hu =>
      exact h.note ⟨fun _ hu' => absurd hu hu', fun k hk => by cases hk⟩ (hq _ _) rfl rfl rfl
    · next hu =>
      split
      · exact h.note ⟨fun _ _ _ => rfl, fun k hk => by cases hk⟩ (hq _ _) rfl rfl rfl
      · next hc =>
        have hcl : closedIn w.log = false := by
          rw [← h.closed_eq]
          simpa using hc
        split
        · exact h.note ⟨fun _ _ hc' => absurd hc' (by simp [hcl]), fun k hk => by cases hk⟩
            (hq _ _) rfl rfl rfl
        · next hl =>
          have hs : s = true := by simpa using ‹¬(!s) = true›
          subst hs
          exact h.registers hu (by simpa using hc) (by simpa using hl)

theorem startable_stop (j : Nat) : Startable j stop := ⟨rfl, rfl⟩

theorem send (h : Good w) (j : Nat) (m : Option Message) (ids : List ConnId) :
    Good (w.send j m ids) := by
  unfold World.send
  split
  · exact h.note trivial (fun _ => rfl) rfl rfl rfl
  · split
    · exact h.note trivial (fun _ => rfl) rfl rfl rfl
    · refine h.setDoing ⟨fun x hx => ?_, fun hd => by cases hd⟩
      obtain ⟨k, -, rfl⟩ := List.mem_map.mp hx
      exact ⟨rfl, rfl⟩

theorem disconnect (h : Good w) (j : Nat) (u : ConnId) : Good (w.disconnect j u) := by
  unfold World.disconnect
  split
  · exact h.note trivial (fun _ => rfl) rfl rfl rfl
  · refine h.setDoing ⟨fun x hx => ?_, fun hd => by cases hd⟩
    rw [List.mem_singleton.mp hx]
    exact startable_stop j

theorem disconnectAll (h : Good w) (j : Nat) (order : List Nat) :
    Good (w.disconnectAll j order) := by
  refine h.setDoing ⟨fun x hx => ?_, fun hd => by cases hd⟩
  obtain ⟨k, -, rfl⟩ := List.mem_map.mp hx
  exact startable_stop j

theorem close (h : Good w) (j : Nat) (order : List Nat) (dispose : Bool) :
    Good (w.close j order dispose) := by
  unfold World.close
  split
  · next hc =>
    split
    · exact h.setDoing hc
    · exact h.returned j none
  · next hc =>
    have hcl : closedIn w.log = false := by
      rw [← h.closed_eq]
      simpa using hc
    obtain ⟨q, hq⟩ := Inbox.exists_push (h.inbox_open (by simpa using hc))
      ⟨ConnId.nil, .signal .shutdown⟩
    simp only [World.enqueue, note_inbox, hq]
    -- the snapshot is the table, which the log tells; none of it has pushed `clientLost` yet
    have hfit : Fits w.log (.closing j (w.snapshot order)) := by
      refine ⟨hcl, fun k => mem_snapshot.trans h.mem_table_iff, fun k hk => ?_⟩
      obtain ⟨-, hf⟩ := h.mem_table_iff.mp (mem_snapshot.mp hk)
      obtain ⟨c, hc, -⟩ := mem_table.mp (mem_snapshot.mp hk)
      cases hl : lostSentIn k w.log with
      | false => rfl
      | true => rw [(h.conns k c hc).lost_forgot hl] at hf; cases hf
    have hquiet : ∀ k, ∀ n ∈ [Note.closing j (w.snapshot order)] ++
        [.pushed ⟨ConnId.nil, .signal .shutdown⟩ none], n.about k = false := by
      intro k n hn
      simp only [List.mem_append, List.mem_singleton] at hn
      rcases hn with rfl | rfl <;> rfl
    apply Good.setDoing
    · refine ⟨fun k c hc' => ?_, fun k hk n hn => ?_, ?_, ?_, fun _ => rfl,
        fun j' => (h.callers j').mono fun _ => rfl, ?_⟩
      · simp only [note_conns, setInbox_conns, note_registry, setInbox_registry, note_log,
          setInbox_log, List.append_assoc] at hc' ⊢
        exact (h.conns k c hc').quiet (hquiet k)
      · simp only [note_log, setInbox_log, List.append_assoc] at hn
        exact h.unused_append hk (hquiet k) n hn
      · simp only [note_closed, setInbox_closed, note_log, setInbox_log, closedIn_concat,
          Note.isClosing, Bool.or_true, Bool.or_false]
      · simp only [note_inbox, setInbox_inbox, note_log, setInbox_log, disposedIn_concat,
          Inbox.push_disposed hq, h.disposed_eq, Note.isDisposed, Bool.or_false]
      · exact h.log.close hfit
    · refine ⟨fun x hx => ?_, fun _ => rfl⟩
      obtain ⟨k, -, rfl⟩ := List.mem_map.mp hx
      exact startable_stop j

theorem runCaller (h : Good w) (j : Nat) : Good (w.runCaller j) := by
  have hj := h.callers j
  unfold World.runCaller
  split
  · next dispose failed hd =>
    rw [hd] at hj
    split
    · next hdisp => exact h.setDoing (hj.2 hdisp)
    · exact (h.returned j _).setDoing trivial
  · next k s todo dispose failed hd =>
    rw [hd] at hj
    have hrest : ∀ failed', DoingOk w.closed j (.calls todo dispose failed') :=
      fun _ => ⟨fun x hx => hj.1 x (List.mem_cons_of_mem _ hx), hj.2⟩
    split
    · next c hc =>
      exact (h.setConn hc ((h.conns k c hc).call j (hj.1 (k, s) List.mem_cons_self))).setDoing
        (hrest failed)
    · exact h.setDoing (hrest failed)
  · next k todo dispose failed hd =>
    rw [hd] at hj
    -- the call has returned once the channel's caller is idle again
    split
    · split
      · exact h.setDoing hj
      · exact h
    · exact h.setDoing hj
  · next failed hd =>
    rw [hd] at hj
    -- closing the inbox, which only a caller that saw the flag set does
    have hdone : Good ((w.setInbox w.inbox.dispose).note (.disposed j)) := by
      refine ⟨fun k c hc => (h.conns k c hc).quiet (by simp [Note.about]),
        fun k hk => h.unused_append hk (by simp [Note.about]), ?_, ?_, fun _ => hj, h.callers,
        h.log.concat (by rw [Fits, ← h.closed_eq]; exact hj) rfl (by simp [Note.envelope?])⟩
      · simp [h.closed_eq, Note.isClosing]
      · simp [Inbox.dispose, Note.isDisposed]
    exact (hdone.returned j _).setDoing trivial
  · exact h

theorem step (h : Good w) (a : Act) : Good (w.step a) := by
  cases a with
  | add j u s => exact h.ifIdle (h.add j u s) j
  | send j m ids => exact h.ifIdle (h.send j m ids) j
  | disconnect j u => exact h.ifIdle (h.disconnect j u) j
  | disconnectAll j order => exact h.ifIdle (h.disconnectAll j order) j
  | close j order => exact h.ifIdle (h.close j order false) j
  | dispose j order => exact h.ifIdle (h.close j order true) j
  | run j => exact h.runCaller j
  | chan k a => exact h.chanStep k a
  | hook k => exact h.hookStep k
  | receive => exact h.receive

theorem fresh (r : Registry) : Good (World.fresh r) where
  conns k c hc := by simp [World.fresh] at hc
  unused _ _ n hn := by simp [World.fresh] at hn
  closed_eq := rfl
  disposed_eq := rfl
  disposed_closed hd := by simp [World.fresh, Inbox.empty] at hd
  callers _ := trivial
  log := LogOk.nil

theorem run (h : Good w) (acts : List Act) : Good (w.run acts) := by
  induction acts generalizing w with
  | nil => exact h
  | cons a acts ih => exact ih (h.step a)

theorem pushed_noSignal (h : Good w) (hr : w.registry.NoSignal) {l₁ l₂ : List Note}
    {e : Envelope} {k : Nat} (hl : w.log = l₁ ++ .pushed e (some k) :: l₂) :
    (e.message = .signal .joined → sentBy k l₁ = []) ∧
      .signal .clientLost ∉ (sentBy k l₁).map Prod.fst := by
  -- the push is about `k`, so `k` is a connection taken on
  have hlt : k < w.conns.length := by
    by_contra hk
    have := h.unused k (by omega) _ (hl ▸ List.mem_append_right _ List.mem_cons_self)
    simp [Note.about] at this
  have hc := List.getElem?_eq_getElem hlt
  have hp : (sentBy k l₁).map Prod.fst ++ [e.message] <+: (sentBy k w.log).map Prod.fst :=
    ⟨(sentBy k l₂).map Prod.fst, by simp [hl, sentBy, Note.sent]⟩
  obtain ⟨hj, hlost⟩ := (h.conns k _ hc).pushes_of_noSignal hr hp
  exact ⟨fun hm => List.map_eq_nil_iff.mp (hj hm), hlost⟩

end Good

theorem good_run (r : Registry) (acts : List Act) : Good ((World.fresh r).run acts) :=
  (Good.fresh r).run acts

end FramedLink.Threads.Serving
