import FramedLink.Proofs.Threads.Reader

namespace FramedLink

theorem Registry.readAll_mono (r : Registry) {s t : Bytes} (h : s <+: t) :
    (r.readAll s).1 <+: (r.readAll t).1 := by
  obtain ⟨u, rfl⟩ := h
  exact r.readAll_prefix s u

theorem Registry.readAll_sent {cs : List TextCodec} {r : Registry}
    (hr : Registry.build (cs.map TextCodec.codec) = .ok r)
    (sent : List (Option Message × Bytes)) (hs : ∀ x ∈ sent, r.encodeFrame x.1 = .ok x.2) :
    (r.readAll (sent.map Prod.snd).flatten).1.map some <+: sent.map Prod.fst := by
  induction sent with
  | nil => simp [readAll, Frame.split_nil, unmarshalAll]
  | cons x sent ih =>
    obtain ⟨id, body, p, hm, -, hsplit, hu⟩ := Registry.frame_of_encodeFrame hr (hs x (by simp))
    have ih' := ih fun y hy => hs y (by simp [hy])
    rw [List.map_cons, List.flatten_cons, readAll,
      Frame.split_append_of_rest_nil _ (by rw [hsplit]), hsplit, List.singleton_append,
      unmarshalAll]
    by_cases hv : Utf8.valid body
    · rw [if_pos hv] at hu
      rw [hu, List.map_cons, List.map_cons, hm]
      exact List.cons_prefix_cons.mpr ⟨rfl, ih'⟩
    · rw [if_neg hv] at hu
      rw [hu]
      exact List.nil_prefix

namespace Threads

namespace Event

def pushed? : Event → Option (Option Message × Bytes)
  | .pushed _ m f => some (m, f)
  | _ => none

def popped? : Event → Option Bytes
  | .popped f => some f
  | _ => none

def wrote? : Event → Option Bytes
  | .wrote b => some b
  | _ => none

def offSend : Event → Bool
  | .pushed _ _ _ | .popped _ | .wrote _ => false
  | _ => true

end Event

/-- The messages whose `send` succeeded, with their frames, in the order the frames were
queued. -/
def pushes (l : List Event) : List (Option Message × Bytes) := l.filterMap Event.pushed?

def popped (l : List Event) : List Bytes := l.filterMap Event.popped?

def written (l : List Event) : Bytes := (l.filterMap Event.wrote?).flatten

@[simp] theorem pushes_nil : pushes [] = [] := rfl

@[simp] theorem popped_nil : popped [] = [] := rfl

@[simp] theorem written_nil : written [] = [] := rfl

@[simp] theorem pushes_append (l l' : List Event) : pushes (l ++ l') = pushes l ++ pushes l' := by
  simp [pushes]

@[simp] theorem popped_append (l l' : List Event) : popped (l ++ l') = popped l ++ popped l' := by
  simp [popped]

@[simp] theorem written_append (l l' : List Event) :
    written (l ++ l') = written l ++ written l' := by
  simp [written]

@[simp] theorem pushes_singleton (e : Event) : pushes [e] = e.pushed?.toList := by
  cases h : e.pushed? <;> simp [pushes, h]

@[simp] theorem popped_singleton (e : Event) : popped [e] = e.popped?.toList := by
  cases h : e.popped? <;> simp [popped, h]

@[simp] theorem written_singleton (e : Event) : written [e] = e.wrote?.getD [] := by
  cases h : e.wrote? <;> simp [written, h]

theorem offSend_spec {l : List Event} (h : ∀ e ∈ l, e.offSend) :
    pushes l = [] ∧ popped l = [] ∧ written l = [] := by
  have hnone : ∀ e ∈ l, e.pushed? = none ∧ e.popped? = none ∧ e.wrote? = none := by
    intro e he
    have := h e he
    cases e <;> simp_all [Event.offSend, Event.pushed?, Event.popped?, Event.wrote?]
  refine ⟨List.filterMap_eq_nil_iff.mpr fun e he => (hnone e he).1,
    List.filterMap_eq_nil_iff.mpr fun e he => (hnone e he).2.1, ?_⟩
  rw [written, List.filterMap_eq_nil_iff.mpr fun e he => (hnone e he).2.2, List.flatten_nil]

def WriterAt.inWrite : WriterAt → Bytes
  | .writing f => f
  | _ => []

def WriterAt.sending : WriterAt → Bool
  | .pop | .writing _ => true
  | _ => false

/-- How the frames of successful sends, the queue, the writer and the bytes written agree. -/
structure Sending (w : World) : Prop where
  pushes_ok : ∀ x ∈ pushes w.log, w.registry.encodeFrame x.1 = .ok x.2
  callers_ok : ∀ i m f, w.callers i = .pushing m f → w.registry.encodeFrame m = .ok f
  queue_le : popped w.log ++ w.queued <+: (pushes w.log).map Prod.snd
  queue_eq : w.queueClosed = false → popped w.log ++ w.queued = (pushes w.log).map Prod.snd
  written_le : written w.log <+: (popped w.log).flatten
  writer_at : w.writer.sending → written w.log ++ w.writer.inWrite = (popped w.log).flatten

theorem Sending.fresh (r : Registry) : Sending (World.fresh r) where
  pushes_ok := by simp [World.fresh]
  callers_ok := by simp [World.fresh]
  queue_le := by simp [World.fresh]
  queue_eq := by simp [World.fresh]
  written_le := by simp [World.fresh]
  writer_at := by simp [World.fresh, WriterAt.inWrite]

/-- A step that queues, takes and writes no frame: the queue stays or is discarded, the writer
stays or leaves its loop, and no caller starts to queue. -/
structure KeepsSending (w w' : World) : Prop where
  registry_eq : w'.registry = w.registry
  log : ∃ l, w'.log = w.log ++ l ∧ ∀ e ∈ l, e.offSend
  queue : (w'.queued = w.queued ∧ w'.queueClosed = w.queueClosed) ∨
    (w'.queued = [] ∧ w'.queueClosed = true)
  writer : w'.writer = w.writer ∨ w'.writer.sending = false
  callers : ∀ i m f, w'.callers i = .pushing m f → w.callers i = .pushing m f

theorem Sending.keeps {w w' : World} (h : Sending w) (hk : KeepsSending w w') : Sending w' := by
  obtain ⟨l, hl, hoff⟩ := hk.log
  obtain ⟨hpush, hpop, hwr⟩ := offSend_spec hoff
  have hpushes : pushes w'.log = pushes w.log := by rw [hl, pushes_append, hpush, List.append_nil]
  have hpopped : popped w'.log = popped w.log := by rw [hl, popped_append, hpop, List.append_nil]
  have hwritten : written w'.log = written w.log := by rw [hl, written_append, hwr, List.append_nil]
  refine ⟨?_, ?_, ?_, ?_, ?_, ?_⟩
  · rw [hpushes, hk.registry_eq]
    exact h.pushes_ok
  · intro i m f hc
    rw [hk.registry_eq]
    exact h.callers_ok i m f (hk.callers i m f hc)
  · rw [hpushes, hpopped]
    rcases hk.queue with ⟨hq, -⟩ | ⟨hq, -⟩
    · rw [hq]
      exact h.queue_le
    · rw [hq, List.append_nil]
      exact (List.prefix_append _ _).trans h.queue_le
  · intro hc
    rw [hpushes, hpopped]
    rcases hk.queue with ⟨hq, hqc⟩ | ⟨-, hqc⟩
    · rw [hq]
      exact h.queue_eq (hqc ▸ hc)
    · rw [hqc] at hc
      cases hc
  · rw [hwritten, hpopped]
    exact h.written_le
  · intro hs
    rw [hwritten, hpopped]
    rcases hk.writer with hx | hx
    · rw [hx] at hs ⊢
      exact h.writer_at hs
    · rw [hx] at hs
      cases hs

theorem KeepsSending.refl (w : World) : KeepsSending w w :=
  ⟨rfl, ⟨[], by simp, by simp⟩, .inl ⟨rfl, rfl⟩, .inl rfl, fun _ _ _ h => h⟩

theorem KeepsSending.of_reader {w w' : World} (hreg : w'.registry = w.registry)
    (hlog : ∃ l, w'.log = w.log ++ l ∧ ∀ e ∈ l, e.offSend) (hq : w'.queued = w.queued)
    (hqc : w'.queueClosed = w.queueClosed) (hw : w'.writer = w.writer)
    (hc : w'.callers = w.callers) : KeepsSending w w' :=
  ⟨hreg, hlog, .inl ⟨hq, hqc⟩, .inl hw, fun i m f h => by rwa [hc] at h⟩

namespace World

variable (w : World)

theorem writer_setStage_keeps (s : Stop) (t : Tid) :
    (w.setStage s t).writer = w.writer ∨ (w.setStage s t).writer.sending = false := by
  rw [setStage_writer]
  split
  · exact .inr rfl
  · exact .inl rfl

theorem writer_finish_keeps (t : Tid) (won : Bool) (r : Option Error) :
    (w.finish t won r).writer = w.writer ∨ (w.finish t won r).writer.sending = false := by
  rw [finish_writer]
  split
  · exact .inr rfl
  · exact .inl rfl

variable {w}

theorem callers_setCaller_pushing {j : Nat} {c : CallerAt} (hc : ∀ m f, c ≠ .pushing m f)
    {i : Nat} {m : Option Message} {f : Bytes} (h : (w.setCaller j c).callers i = .pushing m f) :
    w.callers i = .pushing m f := by
  rw [setCaller_callers] at h
  by_cases hij : i = j
  · subst hij
    rw [Function.update_self] at h
    exact absurd h (hc m f)
  · rwa [Function.update_of_ne hij] at h

theorem callers_setStage_pushing {s : Stop} {t : Tid} {i : Nat} {m : Option Message} {f : Bytes}
    (h : (w.setStage s t).callers i = .pushing m f) : w.callers i = .pushing m f := by
  cases t with
  | reader | writer => exact h
  | caller j => exact callers_setCaller_pushing (by simp) h

theorem callers_finish_pushing {t : Tid} {won : Bool} {r : Option Error} {i : Nat}
    {m : Option Message} {f : Bytes} (h : (w.finish t won r).callers i = .pushing m f) :
    w.callers i = .pushing m f := by
  cases t with
  | reader | writer => exact h
  | caller j => exact callers_setCaller_pushing (w := w.emit _) (by simp) h

variable (w)

theorem keepsSending_stopStep (t : Tid) (s : Stop) : KeepsSending w (w.stopStep t s) := by
  cases s with
  | claim c =>
    rw [stopStep]
    split
    · exact ⟨by simp, ⟨[.returned t false none], by simp, by simp [Event.offSend]⟩,
        .inl ⟨by simp, by simp⟩, w.writer_finish_keeps _ _ _,
        fun _ _ _ => callers_finish_pushing⟩
    · exact ⟨by simp, ⟨[.claimed t c], by simp, by simp [Event.offSend]⟩,
        .inl ⟨by simp, by simp⟩, writer_setStage_keeps _ _ _,
        fun _ _ _ => callers_setStage_pushing⟩
  | dropQueue =>
    exact ⟨by simp [stopStep], ⟨[], by simp [stopStep], by simp⟩, .inr ⟨by simp [stopStep],
      by simp [stopStep]⟩, writer_setStage_keeps _ _ _, fun _ _ _ => callers_setStage_pushing⟩
  | closeStream => exact .refl w
  | awaitLock r =>
    rw [stopStep]
    split
    · exact ⟨by simp, ⟨[.hook (.enter .lost)], by simp, by simp [Event.offSend]⟩,
        .inl ⟨by simp, by simp⟩, writer_setStage_keeps _ _ _,
        fun _ _ _ => callers_setStage_pushing⟩
    · exact .refl w
  | deliverLost r =>
    exact ⟨by simp [stopStep], ⟨[.hook (.leave .lost), .returned t true r], by simp [stopStep],
      by simp [Event.offSend]⟩, .inl ⟨by simp [stopStep], by simp [stopStep]⟩,
      writer_finish_keeps _ _ _ _, fun _ _ _ => callers_finish_pushing⟩

theorem keepsSending_readerStep : KeepsSending w w.readerStep := by
  unfold readerStep
  split
  · split
    · exact .of_reader rfl ⟨[], by simp, by simp⟩ rfl rfl rfl rfl
    · split
      · exact .of_reader rfl ⟨[], by simp, by simp⟩ rfl rfl rfl rfl
      · exact .of_reader rfl ⟨[], by simp, by simp⟩ rfl rfl rfl rfl
  · split
    · exact .of_reader rfl ⟨[], by simp, by simp⟩ rfl rfl rfl rfl
    · exact .refl w
  · split
    · exact .of_reader rfl ⟨[], by simp, by simp⟩ rfl rfl rfl rfl
    · exact .of_reader rfl ⟨_, rfl, by simp [Event.offSend]⟩ rfl rfl rfl rfl
  · exact .of_reader rfl ⟨_, rfl, by simp [Event.offSend]⟩ rfl rfl rfl rfl
  · split <;> exact .of_reader rfl ⟨[], by simp, by simp⟩ rfl rfl rfl rfl
  · exact w.keepsSending_stopStep _ _
  all_goals exact .refl w

theorem keepsSending_readerRead (bytes : Bytes) (last : ReadEnd) :
    KeepsSending w (w.readerRead bytes last) := by
  unfold readerRead
  split
  · split
    · split <;> exact .of_reader rfl ⟨_, rfl, by simp [Event.offSend]⟩ rfl rfl rfl rfl
    · exact .refl w
  · exact .refl w

theorem keepsSending_streamClose (t : Tid) (r : Option Error) :
    KeepsSending w (w.streamClose t r) := by
  unfold streamClose
  split
  · exact ⟨by simp, ⟨[.streamClosed t r], by simp, by simp [Event.offSend]⟩,
      .inl ⟨by simp, by simp⟩, writer_setStage_keeps _ _ _,
      fun _ _ _ => callers_setStage_pushing⟩
  · exact .refl w

theorem keepsSending_sendFailed (i : Nat) (e : Error) :
    KeepsSending w ((w.emit (.sendFailed i e)).setCaller i .idle) :=
  ⟨rfl, ⟨_, rfl, by simp [Event.offSend]⟩, .inl ⟨rfl, rfl⟩, .inl rfl,
    fun _ _ _ => callers_setCaller_pushing (by simp)⟩

end World

namespace Sending

variable {w : World}

theorem written_of_pop (h : Sending w) (hw : w.writer = .pop) :
    written w.log = (popped w.log).flatten := by
  simpa [hw, WriterAt.inWrite] using h.writer_at (by rw [hw]; rfl)

theorem written_of_writing (h : Sending w) {f : Bytes} (hw : w.writer = .writing f) :
    written w.log ++ f = (popped w.log).flatten := by
  simpa [hw, WriterAt.inWrite] using h.writer_at (by rw [hw]; rfl)

theorem take (h : Sending w) {f : Bytes} {rest : List Bytes} (hw : w.writer = .pop)
    (hq : w.queued = f :: rest) :
    Sending ((w.dequeue.setWriter (.writing f)).emit (.popped f)) := by
  have hall := h.written_of_pop hw
  refine ⟨?_, ?_, ?_, ?_, ?_, ?_⟩
  · simpa [Event.pushed?] using h.pushes_ok
  · simpa using h.callers_ok
  · simpa [Event.pushed?, Event.popped?, hq] using h.queue_le
  · simpa [Event.pushed?, Event.popped?, hq] using h.queue_eq
  · simp [Event.popped?, Event.wrote?, hall]
  · simp [Event.popped?, Event.wrote?, WriterAt.inWrite, hall]

theorem wrote (h : Sending w) {f : Bytes} (hw : w.writer = .writing f) :
    Sending ((w.setWriter .pop).emit (.wrote f)) := by
  have hall := h.written_of_writing hw
  refine ⟨?_, ?_, ?_, ?_, ?_, ?_⟩
  · simpa [Event.pushed?] using h.pushes_ok
  · simpa using h.callers_ok
  · simpa [Event.pushed?, Event.popped?] using h.queue_le
  · simpa [Event.pushed?, Event.popped?] using h.queue_eq
  · simp [Event.popped?, Event.wrote?, hall]
  · simp [Event.popped?, Event.wrote?, WriterAt.inWrite, hall]

theorem wroteSome (h : Sending w) {f : Bytes} (hw : w.writer = .writing f) (n : Nat)
    (e : Error) :
    Sending ((w.setWriter (.stopping (.claim (some e)))).emit (.wrote (f.take n))) := by
  have hall := h.written_of_writing hw
  refine ⟨?_, ?_, ?_, ?_, ?_, ?_⟩
  · simpa [Event.pushed?] using h.pushes_ok
  · simpa using h.callers_ok
  · simpa [Event.pushed?, Event.popped?] using h.queue_le
  · simpa [Event.pushed?, Event.popped?] using h.queue_eq
  · simp only [World.emit_log, World.setWriter_log, written_append, written_singleton,
      Event.wrote?, Option.getD_some, popped_append, popped_singleton, Event.popped?,
      Option.toList_none, List.append_nil]
    rw [← hall]
    exact (List.prefix_append_right_inj _).mpr (List.take_prefix n f)
  · simp [WriterAt.sending]

theorem encoded (h : Sending w) {i : Nat} {m : Option Message} {f : Bytes}
    (hf : w.registry.encodeFrame m = .ok f) : Sending (w.setCaller i (.pushing m f)) := by
  refine ⟨h.pushes_ok, fun j m' f' hj => ?_, h.queue_le, h.queue_eq, h.written_le, h.writer_at⟩
  rw [World.setCaller_registry]
  rw [World.setCaller_callers] at hj
  by_cases hji : j = i
  · subst hji
    rw [Function.update_self, CallerAt.pushing.injEq] at hj
    obtain ⟨rfl, rfl⟩ := hj
    exact hf
  · rw [Function.update_of_ne hji] at hj
    exact h.callers_ok j m' f' hj

theorem push (h : Sending w) {i : Nat} {m : Option Message} {f : Bytes}
    (hc : w.callers i = .pushing m f) (hqc : w.queueClosed = false) :
    Sending (((w.enqueue f).emit (.pushed i m f)).setCaller i .idle) := by
  have heq : popped w.log ++ w.queued ++ [f] = (pushes w.log).map Prod.snd ++ [f] := by
    rw [h.queue_eq hqc]
  refine ⟨?_, fun j m' f' hj => ?_, ?_, fun _ => ?_, ?_, ?_⟩
  · intro x hx
    simp only [World.setCaller_registry, World.emit_registry, World.enqueue_registry]
    simp only [World.setCaller_log, World.emit_log, pushes_append, pushes_singleton, Event.pushed?,
      Option.toList_some, List.mem_append, List.mem_singleton] at hx
    rcases hx with hx | rfl
    · exact h.pushes_ok x hx
    · exact h.callers_ok i m f hc
  · exact h.callers_ok j m' f' (World.callers_setCaller_pushing (by simp) hj)
  · have hle : popped w.log ++ w.queued ++ [f] <+: (pushes w.log).map Prod.snd ++ [f] :=
      ⟨[], by rw [List.append_nil, heq]⟩
    simpa [Event.pushed?, Event.popped?] using hle
  · simpa [Event.pushed?, Event.popped?] using heq
  · simpa [Event.popped?, Event.wrote?] using h.written_le
  · simpa [Event.popped?, Event.wrote?] using h.writer_at

theorem stopStep (h : Sending w) (t : Tid) (s : Stop) : Sending (w.stopStep t s) :=
  h.keeps (w.keepsSending_stopStep t s)

theorem writerStep (h : Sending w) : Sending w.writerStep := by
  unfold World.writerStep
  split
  · rename_i hw
    split
    · exact h.keeps
        ⟨rfl, ⟨[], by simp, by simp⟩, .inl ⟨rfl, rfl⟩, .inr rfl, fun _ _ _ h => h⟩
    · split
      · exact h
      · rename_i f rest hq
        exact h.take hw hq
  · exact h.stopStep _ _
  all_goals exact h

theorem writerWrite (h : Sending w) (ans : WriteEnd) : Sending (w.writerWrite ans) := by
  unfold World.writerWrite
  split
  · rename_i f hw
    cases ans with
    | ok => exact h.wrote hw
    | fault n e => exact h.wroteSome hw n e
  · exact h

theorem callerStep (h : Sending w) (i : Nat) : Sending (w.callerStep i) := by
  unfold World.callerStep
  split
  · split
    · exact h.keeps (w.keepsSending_sendFailed i _)
    · split
      · exact h.keeps (w.keepsSending_sendFailed i _)
      · rename_i hf
        exact h.encoded hf
  · rename_i m f hc
    split
    · exact h.keeps (w.keepsSending_sendFailed i _)
    · rename_i hqc
      exact h.push hc (by simpa using hqc)
  · exact h.stopStep _ _
  · exact h

theorem call (h : Sending w) (i : Nat) (c : CallerAt) (hc : ∀ m f, c ≠ .pushing m f) :
    Sending (w.call i c) := by
  unfold World.call
  split
  · exact h.keeps ⟨rfl, ⟨[], by simp, by simp⟩, .inl ⟨rfl, rfl⟩, .inl rfl,
      fun _ _ _ => World.callers_setCaller_pushing hc⟩
  · exact h

theorem step (h : Sending w) (a : Act) : Sending (w.step a) := by
  cases a with
  | run t =>
    cases t with
    | reader => exact h.keeps w.keepsSending_readerStep
    | writer => exact h.writerStep
    | caller i => exact h.callerStep i
  | read bytes last => exact h.keeps (w.keepsSending_readerRead bytes last)
  | write ans => exact h.writerWrite ans
  | closeStream t r => exact h.keeps (w.keepsSending_streamClose t r)
  | callClose i => exact h.call i _ (by simp)
  | callSend i m => exact h.call i _ (by simp)

end Sending

theorem written_mono {l l' : List Event} (h : l <+: l') : written l <+: written l' := by
  obtain ⟨u, rfl⟩ := h
  rw [written_append]
  exact List.prefix_append _ _

theorem Sending.written_le_pushes {w : World} (h : Sending w) :
    written w.log <+: ((pushes w.log).map Prod.snd).flatten := by
  obtain ⟨u, hu⟩ := (List.prefix_append _ _).trans h.queue_le
  refine h.written_le.trans ⟨u.flatten, ?_⟩
  rw [← List.flatten_append, hu]

/-- Two channels, `a` and `b`: what each reads is what the other's writes passed on. -/
structure Link where
  a : World
  b : World

/-- A step of one end's threads or of its stream. -/
inductive LinkAct where
  | a (act : Act)
  | b (act : Act)

namespace Link

def fresh (r : Registry) : Link := ⟨World.fresh r, World.fresh r⟩

/-- One step of a run. A read that would return bytes the other end has not written is not
possible, and changes nothing. -/
def step (l : Link) : LinkAct → Link
  | .a act =>
    let a := l.a.step act
    if received a.log <+: written l.b.log then { l with a := a } else l
  | .b act =>
    let b := l.b.step act
    if received b.log <+: written l.a.log then { l with b := b } else l

def run (l : Link) (acts : List LinkAct) : Link := acts.foldl step l

/-- What holds on every link a run reaches, for the messages from `a` to `b`. -/
structure Carrying (l : Link) (r : Registry) : Prop where
  a_registry : l.a.registry = r
  b_registry : l.b.registry = r
  sending : Sending l.a
  reading : Reading l.b
  piped : received l.b.log <+: written l.a.log

theorem Carrying.fresh (r : Registry) : (Link.fresh r).Carrying r :=
  ⟨rfl, rfl, Sending.fresh r, Reading.fresh r, List.nil_prefix⟩

theorem Carrying.step {l : Link} {r : Registry} (h : l.Carrying r) (act : LinkAct) :
    (l.step act).Carrying r := by
  cases act with
  | a act =>
    -- a step of `a` only adds to what it wrote
    have hg := World.grows_step l.a act
    simp only [Link.step]
    split
    · exact ⟨hg.registry_eq.trans h.a_registry, h.b_registry, h.sending.step act, h.reading,
        h.piped.trans (written_mono hg.log_extends)⟩
    · exact h
  | b act =>
    have hg := World.grows_step l.b act
    simp only [Link.step]
    split
    · rename_i hpipe
      exact ⟨h.a_registry, hg.registry_eq.trans h.b_registry, h.sending, h.reading.step act,
        hpipe⟩
    · exact h

theorem Carrying.run {l : Link} {r : Registry} (h : l.Carrying r) (acts : List LinkAct) :
    (l.run acts).Carrying r := by
  induction acts generalizing l with
  | nil => exact h
  | cons a acts ih => exact ih (h.step a)

end Link

/-- Over a pipe, whatever the threads of both ends do: the messages `b` delivers are, in order,
the first of the messages whose `send` on `a` succeeded, taken in the order their frames were
queued. None is reordered, repeated, changed, or taken from a failed `send`; `b` may deliver
fewer, those it has not read yet and all after a payload it refuses. -/
theorem link_delivers_sent {cs : List TextCodec} {r : Registry}
    (hr : Registry.build (cs.map TextCodec.codec) = .ok r) (acts : List LinkAct) :
    let l := (Link.fresh r).run acts
    (delivered l.b.log).map some <+: (pushes l.a.log).map Prod.fst := by
  intro l
  have h : l.Carrying r := (Link.Carrying.fresh r).run acts
  have hok : ∀ x ∈ pushes l.a.log, r.encodeFrame x.1 = .ok x.2 := by
    rw [← h.a_registry]
    exact h.sending.pushes_ok
  have hread : delivered l.b.log <+: (r.readAll (received l.b.log)).1 := by
    rw [← h.b_registry]
    exact h.reading.delivered_le
  -- from what `b` delivered back through what it read and `a` wrote to what `a` queued
  have hsent : delivered l.b.log <+: (r.readAll ((pushes l.a.log).map Prod.snd).flatten).1 :=
    hread.trans (r.readAll_mono (h.piped.trans h.sending.written_le_pushes))
  exact (hsent.map some).trans (r.readAll_sent hr _ hok)

/-- The statement for a registry of one text codec, over a run in which `a` sends "hi", its
writer writes the frame, and `b` reads it and delivers the message. -/
theorem link_delivers_sent_text :
    let acts : List LinkAct :=
      [.a (.callSend 0 (some (.text 7 [104, 105]))), .a (.run (.caller 0)), .a (.run (.caller 0)),
        .a (.run .writer), .a (.write .ok), .b (.read [10, 0, 7, 0, 0, 0, 2, 0, 0, 0, 104, 105] .more),
        .b (.run .reader), .b (.run .reader), .b (.run .reader)]
    let l := (Link.fresh (Registry.ofText [⟨7⟩])).run acts
    Registry.build (([⟨7⟩] : List TextCodec).map TextCodec.codec) = .ok (Registry.ofText [⟨7⟩]) ∧
      delivered l.b.log = [.text 7 [104, 105]] ∧
      (delivered l.b.log).map some <+: (pushes l.a.log).map Prod.fst := by
  intro acts l
  have hr : Registry.build (([⟨7⟩] : List TextCodec).map TextCodec.codec) =
      .ok (Registry.ofText [⟨7⟩]) := rfl
  exact ⟨hr, by decide +kernel, link_delivers_sent hr acts⟩

end Threads

end FramedLink
