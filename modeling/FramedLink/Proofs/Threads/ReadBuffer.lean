import FramedLink.Proofs.Threads.Reader

namespace FramedLink.Frame

theorem length_le_bufferSize {p f : Bytes} (h : encode p = .ok f) : f.length ≤ bufferSize := by
  obtain ⟨hp, rfl⟩ := encode_eq_ok.mp h
  simp only [List.length_append, Bytes.length_encodeLE, bufferSize, headerSize]
  omega

end FramedLink.Frame

namespace FramedLink.Threads

namespace World

/-- What each place of the reader says of the read buffer: about to read, the buffer holds no
whole frame; while it cuts frames, the cut lies within the bytes held, which fit the buffer;
having cut them all, no whole frame is left, unless the channel closed meanwhile. -/
def BufferFacts (w : World) : ReaderAt → Prop
  | .read => Frame.decode? w.buffer = none
  | .unframe off _ | .awaitLock off _ _ | .checkOpen off _ _ | .delivering off _ _ =>
      off ≤ w.buffer.length ∧ w.buffer.length ≤ Frame.bufferSize
  | .afterUnframe _ => Frame.decode? w.buffer = none ∨ w.closed = true
  | .stopping _ | .exited => True

def Buffered (w : World) : Prop := w.BufferFacts w.reader

theorem active_stopStep {w : World} {s : Stop} (hr : w.reader = .stopping s) :
    (w.stopStep .reader s).reader.active = false := by
  cases s with
  | claim c =>
    rw [stopStep]
    split <;> simp [finish_reader, setStage_reader, ReaderAt.active]
  | awaitLock r =>
    rw [stopStep]
    split <;> simp [setStage_reader, hr, ReaderAt.active]
  | _ => simp [stopStep, setStage_reader, finish_reader, hr, ReaderAt.active]

theorem bufferFacts_of_inactive (w : World) {r : ReaderAt} (h : r.active = false) :
    w.BufferFacts r := by
  cases r <;> simp_all [ReaderAt.active, BufferFacts]

theorem readerStep_compacts {w : World} {off : Nat} {last : ReadEnd}
    (hr : w.reader = .unframe off last) (hd : Frame.decode? (w.buffer.drop off) = none) :
    w.readerStep.buffer = w.buffer.drop off ∧ w.readerStep.reader = .afterUnframe last := by
  simp [readerStep, hr, hd]

theorem readerRead_completes {w : World} (hr : w.reader = .read) {f : Bytes}
    (hf : f.length ≤ Frame.bufferSize) (hpre : w.buffer <+: f) (hlt : w.buffer.length < f.length)
    (last : ReadEnd) :
    (w.readerRead (f.drop w.buffer.length) last).buffer = f ∧
      (w.readerRead (f.drop w.buffer.length) last).reader = .unframe 0 last := by
  have hfit : (f.drop w.buffer.length).length + w.buffer.length ≤ Frame.bufferSize := by
    rw [List.length_drop]
    omega
  have hne : (f.drop w.buffer.length).isEmpty = false := by
    rw [List.isEmpty_eq_false_iff, ← List.length_pos_iff, List.length_drop]
    omega
  simp only [readerRead, hr, hfit, if_true, hne, Bool.false_eq_true, if_false, setReader_buffer,
    setBuffer_buffer, emit_buffer, setReader_reader, and_true]
  exact List.prefix_iff_eq_append.mp hpre

end World

namespace World.Buffered

variable {w : World}

theorem fresh (r : Registry) : (World.fresh r).Buffered := by
  simp [World.Buffered, World.BufferFacts, World.fresh, Frame.decode?]

theorem facts (h : w.Buffered) {r : ReaderAt} (hr : w.reader = r) : w.BufferFacts r := by
  unfold World.Buffered at h
  rwa [hr] at h

theorem untouched (h : w.Buffered) {w' : World} (hu : Untouched w w')
    (hr : w'.reader = w.reader) : w'.Buffered := by
  unfold World.Buffered at h ⊢
  rw [hr]
  cases hw : w.reader with
  | afterUnframe last =>
    rw [hw] at h
    simp only [World.BufferFacts, hu.buffer_eq] at h ⊢
    exact h.imp_right hu.closed_mono
  | stopping _ | exited => trivial
  | _ =>
    rw [hw] at h
    simpa only [World.BufferFacts, hu.buffer_eq] using h

theorem readerStep (h : w.Buffered) : w.readerStep.Buffered := by
  unfold World.readerStep
  split
  · next off last hr =>
    obtain ⟨hoff, hlen⟩ := h.facts hr
    split
    · next hd =>
      -- the rest after the cut moves to the front
      simp [World.Buffered, World.BufferFacts, hd]
    · next p n hd =>
      have hn := (Frame.decode?_length hd).2
      rw [List.length_drop] at hn
      split
      · simp [World.Buffered, World.BufferFacts]
      · simp only [World.Buffered, World.setReader_reader, World.BufferFacts,
          World.setReader_buffer]
        omega
  · next off m last hr =>
    split <;> simpa [World.Buffered, World.BufferFacts, hr] using h.facts hr
  · next off m last hr =>
    split
    · next hc => simp [World.Buffered, World.BufferFacts, hc]
    · simpa [World.Buffered, World.BufferFacts] using h.facts hr
  · next off m last hr =>
    simpa [World.Buffered, World.BufferFacts] using h.facts hr
  · next last hr =>
    split
    · simp [World.Buffered, World.BufferFacts]
    · simp [World.Buffered, World.BufferFacts]
    · split
      · simp [World.Buffered, World.BufferFacts]
      · next hc =>
        -- an open channel: the cut went through, and no whole frame is left
        simpa [World.Buffered, World.BufferFacts, hc] using h.facts hr
  · next s hr => exact World.bufferFacts_of_inactive _ (World.active_stopStep hr)
  all_goals exact h

theorem readerRead (h : w.Buffered) (bytes : Bytes) (last : ReadEnd) :
    (w.readerRead bytes last).Buffered := by
  unfold World.readerRead
  split
  · next hr =>
    have hnone : Frame.decode? w.buffer = none := h.facts hr
    split
    · next hfit =>
      split
      · -- an empty read tells only how the input went on
        exact .inl (by simpa using hnone)
      · simp only [World.Buffered, World.setReader_reader, World.BufferFacts,
          World.setReader_buffer, World.setBuffer_buffer, World.emit_buffer, List.length_append]
        omega
    · exact h
  · exact h

theorem streamClose (h : w.Buffered) (t : Tid) (r : Option Error) :
    (w.streamClose t r).Buffered := by
  by_cases ht : t = .reader
  · subst ht
    unfold World.streamClose
    split
    · simp [World.Buffered, World.setStage_reader, World.BufferFacts]
    · exact h
  · obtain ⟨hu, hr⟩ := w.untouched_streamClose ht r
    exact h.untouched hu hr

theorem step (h : w.Buffered) (a : Act) : (w.step a).Buffered := by
  cases a with
  | run t =>
    cases t with
    | reader => exact h.readerStep
    | writer =>
      obtain ⟨hu, hr⟩ := w.untouched_writerStep
      exact h.untouched hu hr
    | caller i =>
      obtain ⟨hu, hr⟩ := w.untouched_callerStep i
      exact h.untouched hu hr
  | read bytes last => exact h.readerRead bytes last
  | write ans =>
    obtain ⟨hu, hr⟩ := w.untouched_writerWrite ans
    exact h.untouched hu hr
  | closeStream t r => exact h.streamClose t r
  | callClose i =>
    obtain ⟨hu, hr⟩ := w.untouched_call i (.stopping (.claim none))
    exact h.untouched hu hr
  | callSend i m =>
    obtain ⟨hu, hr⟩ := w.untouched_call i (.sending m)
    exact h.untouched hu hr

theorem run (h : w.Buffered) (acts : List Act) : (w.run acts).Buffered := by
  induction acts generalizing w with
  | nil => exact h
  | cons a acts ih => exact ih (h.step a)

end World.Buffered

/-- The read buffer never overflows, however the reads are cut and the threads interleave: the
reader never reads into an empty room, cuts frames only within what it holds, moves the tail to
the front unchanged, and has room for the rest of any frame it has begun. -/
theorem read_buffer_bounded (r : Registry) (acts : List Act) :
    let w := (World.fresh r).run acts
    (w.reader = .read → w.buffer.length < Frame.bufferSize ∧ Frame.decode? w.buffer = none) ∧
    (∀ off last, w.reader = .unframe off last →
      off ≤ w.buffer.length ∧ w.buffer.length ≤ Frame.bufferSize) ∧
    (∀ off last, w.reader = .unframe off last → Frame.decode? (w.buffer.drop off) = none →
      (w.step (.run .reader)).buffer = w.buffer.drop off ∧
      (w.step (.run .reader)).reader = .afterUnframe last ∧
      Frame.decode? (w.step (.run .reader)).buffer = none ∧
      (w.step (.run .reader)).buffer.length < Frame.bufferSize) ∧
    (w.reader = .read → ∀ p f last, Frame.encode p = .ok f → w.buffer <+: f →
      (w.step (.read (f.drop w.buffer.length) last)).buffer = f ∧
      (w.step (.read (f.drop w.buffer.length) last)).reader = .unframe 0 last) := by
  intro w
  have h : w.Buffered := (World.Buffered.fresh r).run acts
  have atRead : w.reader = .read → Frame.decode? w.buffer = none := fun hr => h.facts hr
  refine ⟨fun hr => ⟨Frame.decode?_none_length (atRead hr), atRead hr⟩,
    fun off last hr => h.facts hr, fun off last hr hd => ?_, fun hr p f last hf hpre => ?_⟩
  · obtain ⟨hbuf, hreader⟩ := World.readerStep_compacts hr hd
    refine ⟨hbuf, hreader, ?_, ?_⟩
    · rw [World.step, hbuf]
      exact hd
    · rw [World.step, hbuf]
      exact Frame.decode?_none_length hd
  · -- the buffer holds only part of the frame, since the frame is whole
    have hlt : w.buffer.length < f.length := by
      rcases Nat.lt_or_ge w.buffer.length f.length with hlt | hge
      · exact hlt
      · have heq : w.buffer = f := hpre.eq_of_length_le hge
        have hdec : Frame.decode? (f ++ []) = some (p, p.length + 2) := Frame.decode?_encode hf
        rw [List.append_nil, ← heq, atRead hr] at hdec
        cases hdec
    exact World.readerRead_completes hr (Frame.length_le_bufferSize hf) hpre hlt last

end FramedLink.Threads
