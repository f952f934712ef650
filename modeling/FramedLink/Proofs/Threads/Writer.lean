import FramedLink.Proofs.Threads.Link

namespace FramedLink.Threads

def answers (l : List Event) : List Bytes := l.filterMap Event.wrote?

@[simp] theorem answers_append (l l' : List Event) :
    answers (l ++ l') = answers l ++ answers l' := by
  simp [answers]

@[simp] theorem answers_singleton (e : Event) : answers [e] = e.wrote?.toList := by
  cases h : e.wrote? <;> simp [answers, h]

theorem answers_eq_nil_of_offSend {l : List Event} (h : ∀ e ∈ l, e.offSend) : answers l = [] := by
  refine List.filterMap_eq_nil_iff.mpr fun e he => ?_
  have := h e he
  cases e <;> simp_all [Event.offSend, Event.wrote?]

theorem KeepsSending.popped_answers {w w' : World} (h : KeepsSending w w') :
    popped w'.log = popped w.log ∧ answers w'.log = answers w.log := by
  obtain ⟨l, hl, hoff⟩ := h.log
  rw [hl, popped_append, answers_append, (offSend_spec hoff).2.1, answers_eq_nil_of_offSend hoff]
  simp

theorem KeepsSending.queueClosed_mono {w w' : World} (h : KeepsSending w w')
    (hc : w.queueClosed = true) : w'.queueClosed = true := by
  rcases h.queue with ⟨-, hq⟩ | ⟨-, hq⟩
  · rw [hq, hc]
  · exact hq

def WriterAt.pending : WriterAt → List Bytes
  | .writing f => [f]
  | _ => []

namespace World

variable (w : World)

theorem writer_stopStep {t : Tid} (ht : t ≠ .writer) (s : Stop) :
    (w.stopStep t s).writer = w.writer := by
  cases s with
  | claim c =>
    rw [stopStep]
    split <;> simp [finish_writer, setStage_writer, ht]
  | awaitLock r =>
    rw [stopStep]
    split <;> simp [setStage_writer, ht]
  | _ => simp [stopStep, setStage_writer, finish_writer, ht]

theorem writer_readerStep : w.readerStep.writer = w.writer := by
  unfold readerStep
  split
  · split
    · rfl
    · split <;> rfl
  · split <;> rfl
  · split <;> rfl
  · rfl
  · split <;> rfl
  · exact w.writer_stopStep (by simp) _
  all_goals rfl

theorem writer_readerRead (bytes : Bytes) (last : ReadEnd) :
    (w.readerRead bytes last).writer = w.writer := by
  unfold readerRead
  split
  · split
    · split <;> rfl
    · rfl
  · rfl

theorem writer_streamClose {t : Tid} (ht : t ≠ .writer) (r : Option Error) :
    (w.streamClose t r).writer = w.writer := by
  unfold streamClose
  split
  · simp [setStage_writer, ht]
  · rfl

theorem callerStep_writer (i : Nat) :
    (w.callerStep i).writer = w.writer ∧ popped (w.callerStep i).log = popped w.log ∧
      answers (w.callerStep i).log = answers w.log ∧
      (w.queueClosed = true → (w.callerStep i).queueClosed = true) := by
  unfold callerStep
  split
  · split
    · simp [Event.popped?, Event.wrote?]
    · split
      · simp [Event.popped?, Event.wrote?]
      · simp
  · split
    · simp [Event.popped?, Event.wrote?]
    · simp [Event.popped?, Event.wrote?]
  · have hk := w.keepsSending_stopStep (.caller i) ‹Stop›
    exact ⟨w.writer_stopStep (by simp) _, hk.popped_answers.1, hk.popped_answers.2,
      hk.queueClosed_mono⟩
  · simp

/-- Everything one step can do to the writer, the frames it took, the writes that returned and
the queue's closed flag. The flag never goes back to open. Besides, the step leaves the writer
alone; or the writer takes the oldest frame off the open queue and starts writing it; or it finds
the queue closed and leaves its loop; or its write returns, whole or failed; or its shutdown
moves on, by its own step or by the return of its close of the stream. -/
theorem writer_moves (a : Act) :
    (w.queueClosed = true → (w.step a).queueClosed = true) ∧
    (((w.step a).writer = w.writer ∧ popped (w.step a).log = popped w.log ∧
        answers (w.step a).log = answers w.log) ∨
      (∃ f rest, a = .run .writer ∧ w.writer = .pop ∧ w.queueClosed = false ∧
        w.queued = f :: rest ∧ (w.step a).writer = .writing f ∧
        popped (w.step a).log = popped w.log ++ [f] ∧ answers (w.step a).log = answers w.log ∧
        (w.step a).queueClosed = false) ∨
      (a = .run .writer ∧ w.writer = .pop ∧ w.queueClosed = true ∧ (w.step a).writer = .exited ∧
        popped (w.step a).log = popped w.log ∧ answers (w.step a).log = answers w.log) ∨
      (∃ f, a = .write .ok ∧ w.writer = .writing f ∧ (w.step a).writer = .pop ∧
        popped (w.step a).log = popped w.log ∧ answers (w.step a).log = answers w.log ++ [f]) ∨
      (∃ f n e, a = .write (.fault n e) ∧ w.writer = .writing f ∧
        (w.step a).writer = .stopping (.claim (some e)) ∧ popped (w.step a).log = popped w.log ∧
        answers (w.step a).log = answers w.log ++ [f.take n]) ∨
      (∃ s, w.writer = .stopping s ∧ (w.step a).writer.sending = false ∧
        popped (w.step a).log = popped w.log ∧ answers (w.step a).log = answers w.log ∧
        (a = .run .writer ∨ ∃ r, s = .closeStream ∧ a = .closeStream .writer r))) := by
  cases a with
  | run t =>
    cases t with
    | reader =>
      have hk := w.keepsSending_readerStep
      exact ⟨hk.queueClosed_mono, .inl ⟨w.writer_readerStep, hk.popped_answers⟩⟩
    | writer =>
      rw [show w.step (.run .writer) = w.writerStep from rfl]
      unfold writerStep
      split
      · next hx =>
        split
        · next hc => exact ⟨fun _ => hc, .inr (.inr (.inl ⟨rfl, hx, hc, rfl, rfl, rfl⟩))⟩
        · next hc =>
          split
          · exact ⟨id, .inl ⟨rfl, rfl, rfl⟩⟩
          · next f rest hq =>
            refine ⟨fun h => absurd h (by simpa using hc), .inr (.inl ⟨f, rest, rfl, hx,
              by simpa using hc, hq, rfl, by simp [Event.popped?], by simp [Event.wrote?],
              by simpa using hc⟩)⟩
      · next s hx =>
        have hk := w.keepsSending_stopStep .writer s
        have hs : (w.stopStep .writer s).writer.sending = false := by
          rcases hk.writer with h | h
          · rw [h, hx]
            rfl
          · exact h
        exact ⟨hk.queueClosed_mono, .inr (.inr (.inr (.inr (.inr ⟨s, hx, hs, hk.popped_answers.1,
          hk.popped_answers.2, .inl rfl⟩))))⟩
      all_goals exact ⟨id, .inl ⟨rfl, rfl, rfl⟩⟩
    | caller i =>
      obtain ⟨hw, hp, ha, hq⟩ := w.callerStep_writer i
      exact ⟨hq, .inl ⟨hw, hp, ha⟩⟩
  | read bytes last =>
    have hk := w.keepsSending_readerRead bytes last
    exact ⟨hk.queueClosed_mono, .inl ⟨w.writer_readerRead bytes last, hk.popped_answers⟩⟩
  | write ans =>
    rw [show w.step (.write ans) = w.writerWrite ans from rfl]
    unfold writerWrite
    split
    · next f hx =>
      cases ans with
      | ok =>
        exact ⟨id, .inr (.inr (.inr (.inl ⟨f, rfl, hx, rfl, by simp [Event.popped?],
          by simp [Event.wrote?]⟩)))⟩
      | fault n e =>
        exact ⟨id, .inr (.inr (.inr (.inr (.inl ⟨f, n, e, rfl, hx, rfl, by simp [Event.popped?],
          by simp [Event.wrote?]⟩))))⟩
    · exact ⟨id, .inl ⟨rfl, rfl, rfl⟩⟩
  | closeStream t r =>
    have hk := w.keepsSending_streamClose t r
    refine ⟨hk.queueClosed_mono, ?_⟩
    by_cases ht : t = .writer
    · subst ht
      rw [show w.step (.closeStream .writer r) = w.streamClose .writer r from rfl]
      unfold streamClose
      split
      · next hs =>
        have hx : w.writer = .stopping .closeStream := by
          cases hw : w.writer <;> simp_all [stage, WriterAt.stage]
        exact .inr (.inr (.inr (.inr (.inr ⟨_, hx, by simp [setStage_writer, WriterAt.sending],
          by simp [setStage, Event.popped?], by simp [setStage, Event.wrote?], .inr ⟨r, rfl, rfl⟩⟩))))
      · exact .inl ⟨rfl, rfl, rfl⟩
    · exact .inl ⟨w.writer_streamClose ht r, hk.popped_answers⟩
  | callClose i =>
    rw [show w.step (.callClose i) = w.call i (.stopping (.claim none)) from rfl]
    unfold call
    split <;> exact ⟨id, .inl ⟨rfl, rfl, rfl⟩⟩
  | callSend i m =>
    rw [show w.step (.callSend i m) = w.call i (.sending m) from rfl]
    unfold call
    split <;> exact ⟨id, .inl ⟨rfl, rfl, rfl⟩⟩

end World

theorem World.keeps_run {P : World → Prop} (hstep : ∀ w a, P w → P (w.step a)) {w : World}
    (hw : P w) (acts : List Act) : P (w.run acts) := by
  induction acts generalizing w with
  | nil => exact hw
  | cons a acts ih => exact ih (hstep w a hw)

/-- How the frames taken and the writes that returned agree: each frame taken is handed whole to
one write, in order; every write has returned but the one in flight, and only the last may have
failed, after passing on the first bytes of its frame. -/
structure Writing (w : World) : Prop where
  loop : w.writer.sending → answers w.log ++ w.writer.pending = popped w.log
  answered : ∃ done rest, popped w.log = done ++ rest ∧ rest.length ≤ 1 ∧
    (answers w.log = done ∨ ∃ f n, rest = [f] ∧ answers w.log = done ++ [f.take n])

namespace Writing

variable {w : World}

theorem fresh (r : Registry) : Writing (World.fresh r) :=
  ⟨fun _ => rfl, [], [], rfl, by simp, .inl rfl⟩

theorem step (h : Writing w) (a : Act) : Writing (w.step a) := by
  obtain ⟨-, hm⟩ := w.writer_moves a
  rcases hm with ⟨hw, hp, ha⟩ | ⟨f, rest, -, hx, -, -, hw, hp, ha, -⟩ | ⟨-, hx, -, hw, hp, ha⟩ |
    ⟨f, -, hx, hw, hp, ha⟩ | ⟨f, n, e, -, hx, hw, hp, ha⟩ | ⟨s, hx, hs, hp, ha, -⟩
  · exact ⟨by rw [hw, hp, ha]; exact h.loop, by rw [hp, ha]; exact h.answered⟩
  · -- the writer waited on the queue: every frame it took before has been written
    have hall : answers w.log = popped w.log := by
      simpa [hx, WriterAt.pending] using h.loop (by rw [hx]; rfl)
    refine ⟨fun _ => ?_, popped w.log, [f], hp, by simp, .inl (by rw [ha, hall])⟩
    rw [hw, hp, ha, hall]
    rfl
  · refine ⟨fun hs => ?_, by rw [hp, ha]; exact h.answered⟩
    rw [hw] at hs
    cases hs
  · have hall : answers w.log ++ [f] = popped w.log := by
      simpa [hx, WriterAt.pending] using h.loop (by rw [hx]; rfl)
    refine ⟨fun _ => ?_, popped w.log, [], by rw [hp, List.append_nil], by simp,
      .inl (by rw [ha, hall])⟩
    rw [hw, hp, ha, ← hall]
    simp [WriterAt.pending]
  · have hall : answers w.log ++ [f] = popped w.log := by
      simpa [hx, WriterAt.pending] using h.loop (by rw [hx]; rfl)
    refine ⟨fun hs => ?_, answers w.log, [f], by rw [hp, hall], by simp, .inr ⟨f, n, rfl, ha⟩⟩
    rw [hw] at hs
    cases hs
  · refine ⟨fun hs' => ?_, by rw [hp, ha]; exact h.answered⟩
    rw [hs] at hs'
    cases hs'

theorem run (h : Writing w) (acts : List Act) : Writing (w.run acts) :=
  World.keeps_run (fun _ a h => h.step a) h acts

end Writing

def World.Stuck (w : World) : Prop := w.writer.sending = false ∨ w.queueClosed = true

theorem World.Stuck.step {w : World} (h : w.Stuck) (a : Act) :
    (w.step a).Stuck ∧ popped (w.step a).log = popped w.log := by
  obtain ⟨hq, hm⟩ := w.writer_moves a
  have hkeep : ∀ {x : WriterAt}, (w.step a).writer = x → (x.sending = false ∨ w.writer = x) →
      (w.step a).Stuck := by
    intro x hw hx
    rcases hx with hx | hx
    · exact .inl (by rw [hw, hx])
    · rcases h with h | h
      · exact .inl (by rw [hw, ← hx, h])
      · exact .inr (hq h)
  rcases hm with ⟨hw, hp, -⟩ | ⟨f, rest, -, hx, hc, -⟩ | ⟨-, -, -, hw, hp, -⟩ |
    ⟨f, -, hx, hw, hp, -⟩ | ⟨f, n, e, -, -, hw, hp, -⟩ | ⟨s, -, hs, hp, -⟩
  · exact ⟨hkeep hw (.inr rfl), hp⟩
  · -- a writer waiting on an open queue is not stuck
    rcases h with h | h
    · rw [hx] at h
      cases h
    · rw [hc] at h
      cases h
  · exact ⟨hkeep hw (.inl rfl), hp⟩
  · rcases h with h | h
    · rw [hx] at h
      cases h
    · exact ⟨.inr (hq h), hp⟩
  · exact ⟨hkeep hw (.inl rfl), hp⟩
  · exact ⟨.inl hs, hp⟩

theorem World.Stuck.popped_run {w : World} (h : w.Stuck) (acts : List Act) :
    popped (w.run acts).log = popped w.log :=
  (World.keeps_run (P := fun v => v.Stuck ∧ popped v.log = popped w.log)
    (fun _ a hv => ⟨(hv.1.step a).1, (hv.1.step a).2.trans hv.2⟩) ⟨h, rfl⟩ acts).2

/-- After the writer's write failed with `e`: its shutdown has yet to claim the channel, or it
claimed it with `e`, or it returned having found the channel closed by an earlier claim. -/
def World.FailedWith (e : Error) (w : World) : Prop :=
  w.writer = .stopping (.claim (some e)) ∨ Event.claimed .writer (some e) ∈ w.log ∨
    ∃ l₁ l₂, w.log = l₁ ++ .returned .writer false none :: l₂ ∧ claims l₁ ≠ []

theorem World.FailedWith.step {e : Error} {w : World} (hi : Inv w) (h : w.FailedWith e)
    (a : Act) : (w.step a).FailedWith e := by
  obtain ⟨t, ht⟩ := (w.grows_step a).log_extends
  rcases h with hx | hmem | ⟨l₁, l₂, hl, hc⟩
  · obtain ⟨-, hm⟩ := w.writer_moves a
    rcases hm with ⟨hw, -⟩ | ⟨_, _, -, hp, -⟩ | ⟨-, hp, -⟩ | ⟨_, -, hp, -⟩ | ⟨_, _, _, -, hp, -⟩ |
      ⟨s, hs, -, -, -, ha⟩
    · exact .inl (hw.trans hx)
    all_goals try (rw [hx] at hp; cases hp)
    -- the writer's shutdown takes its claim
    rw [hx, WriterAt.stopping.injEq] at hs
    subst hs
    rcases ha with rfl | ⟨r, hs, -⟩
    · have hrun : w.step (.run .writer) = w.stopStep .writer (.claim (some e)) := by
        rw [show w.step (.run .writer) = w.writerStep from rfl]
        unfold World.writerStep
        rw [hx]
      rw [hrun]
      simp only [World.stopStep]
      split
      · next hclosed =>
        have hc : claims w.log ≠ [] := fun hn => by
          rw [← hi.closing.open_iff, hclosed] at hn
          cases hn
        exact .inr (.inr ⟨w.log, [], by simp, hc⟩)
      · exact .inr (.inl (by simp))
    · cases hs
  · exact .inr (.inl (by rw [← ht]; exact List.mem_append_left _ hmem))
  · exact .inr (.inr ⟨l₁, l₂ ++ t, by rw [← ht, hl]; simp, hc⟩)

theorem Inv.closed_of_claims {w : World} (h : Inv w) (hc : claims w.log ≠ []) : w.closed = true := by
  cases hcl : w.closed with
  | false => exact absurd (h.closing.open_iff.mp hcl) hc
  | true => rfl

/-- After a failed write, the channel is closed by the writer's claim, with the write's error as
its cause, or it had been closed before the writer's shutdown claimed it; or that claim is still
to come. -/
theorem World.FailedWith.closes {e : Error} {v : World} (hi : Inv v) (h : v.FailedWith e) :
    v.writer = .stopping (.claim (some e)) ∨ v.closed = true ∧
      (claims v.log = [(.writer, some e)] ∧ v.cause = some e ∨
        ∃ l₁ l₂, v.log = l₁ ++ .returned .writer false none :: l₂ ∧ claims l₁ ≠ []) := by
  rcases h with hx | hmem | ⟨l₁, l₂, hl, hc⟩
  · exact .inl hx
  · -- the writer's claim is the one claim, and it gave the cause
    have hcl : (.writer, some e) ∈ claims v.log := List.mem_filterMap.mpr ⟨_, hmem, rfl⟩
    have hne : claims v.log ≠ [] := List.ne_nil_of_mem hcl
    obtain ⟨t, ht⟩ := hi.claims_of_closed (hi.closed_of_claims hne)
    rw [ht, List.mem_singleton, Prod.mk.injEq] at hcl
    obtain ⟨rfl, hcause⟩ := hcl
    exact .inr ⟨hi.closed_of_claims hne, .inl ⟨by rw [ht, ← hcause], hcause.symm⟩⟩
  · have hne : claims v.log ≠ [] := by
      rw [hl, claims_append]
      simp [hc]
    exact .inr ⟨hi.closed_of_claims hne, .inr ⟨l₁, l₂, hl, hc⟩⟩

/-- The writer writes the frames of successful sends, whole and in queue order, one write each,
only the last of which may have failed; frames still queued at the close are never written, and
a failed write ends the channel with its error unless an earlier claim closed it. -/
theorem writer_writes_queued (r : Registry) (acts : List Act) :
    let w := (World.fresh r).run acts
    popped w.log <+: (pushes w.log).map Prod.snd ∧
    (∃ done rest, popped w.log = done ++ rest ∧ rest.length ≤ 1 ∧
      (answers w.log = done ∨ ∃ f n, rest = [f] ∧ answers w.log = done ++ [f.take n])) ∧
    (∀ a, w.queueClosed = false → (w.step a).queueClosed = true →
      popped w.log ++ w.queued = (pushes w.log).map Prod.snd ∧
      ∀ acts', popped ((w.step a).run acts').log = popped w.log) ∧
    (∀ f n e, w.writer = .writing f → ∀ acts',
      let v := (w.step (.write (.fault n e))).run acts'
      popped v.log = popped w.log ∧
      (v.writer = .stopping (.claim (some e)) ∨ v.closed = true ∧
        (claims v.log = [(.writer, some e)] ∧ v.cause = some e ∨
          ∃ l₁ l₂, v.log = l₁ ++ .returned .writer false none :: l₂ ∧ claims l₁ ≠ []))) := by
  intro w
  have hs : Sending w := World.keeps_run (fun _ a h => h.step a) (Sending.fresh r) acts
  have hwr : Writing w := (Writing.fresh r).run acts
  have hi : Inv w := inv_run r acts
  refine ⟨(List.prefix_append _ _).trans hs.queue_le, hwr.answered, ?_, ?_⟩
  · intro a hopen hclosed
    -- the step that closes the queue takes no frame
    have hp : popped (w.step a).log = popped w.log := by
      obtain ⟨-, hm⟩ := w.writer_moves a
      rcases hm with ⟨-, hp, -⟩ | ⟨_, _, -, -, -, -, -, -, -, hc⟩ | ⟨-, -, -, -, hp, -⟩ |
        ⟨_, -, -, -, hp, -⟩ | ⟨_, _, _, -, -, -, hp, -⟩ | ⟨_, -, -, hp, -⟩
      all_goals first | exact hp | (rw [hc] at hclosed; cases hclosed)
    refine ⟨hs.queue_eq hopen, fun acts' => ?_⟩
    rw [World.Stuck.popped_run (.inr hclosed), hp]
  · intro f n e hx acts' v
    have hstep : w.step (.write (.fault n e)) =
        (w.setWriter (.stopping (.claim (some e)))).emit (.wrote (f.take n)) := by
      simp [World.step, World.writerWrite, hx]
    have hi' : Inv (w.step (.write (.fault n e))) := hi.step _
    have hf : v.FailedWith e :=
      (World.keeps_run (P := fun v => Inv v ∧ v.FailedWith e)
        (fun v a hv => ⟨hv.1.step a, hv.2.step hv.1 a⟩) ⟨hi', .inl (by rw [hstep]; rfl)⟩ acts').2
    refine ⟨?_, hf.closes (hi'.run acts')⟩
    rw [World.Stuck.popped_run (.inl (by rw [hstep]; rfl)), hstep]
    simp [Event.popped?]

end FramedLink.Threads
