import FramedLink.Proofs.Threads.CloseOnce
import FramedLink.Proofs.Wire

namespace FramedLink

/-- What a reader that runs to its end delivers from the bytes `s`: the messages of the leading
whole frames, up to the first payload that does not read, and that payload's failure. -/
def Registry.readAll (r : Registry) (s : Bytes) : List Message × Option Error :=
  r.unmarshalAll (Frame.split s).1

theorem Registry.readAll_prefix (r : Registry) (s t : Bytes) :
    (r.readAll s).1 <+: (r.readAll (s ++ t)).1 := by
  obtain ⟨qs, hqs⟩ := Frame.split_prefix (List.prefix_append s t)
  unfold readAll
  rw [← hqs]
  exact r.unmarshalAll_prefix _ qs

namespace Threads

namespace Event

def bytes? : Event → Option Bytes
  | .received b _ => some b
  | _ => none

def readEnd? : Event → Option ReadEnd
  | .received _ e => some e
  | _ => none

end Event

def Hook.message? : Hook → Option Message
  | .enter (.message m) => some m
  | _ => none

def received (l : List Event) : Bytes := (l.filterMap Event.bytes?).flatten

def lastEnd (l : List Event) : Option ReadEnd := (l.filterMap Event.readEnd?).getLast?

def delivered (l : List Event) : List Message := (hooks l).filterMap Hook.message?

@[simp] theorem received_nil : received [] = [] := rfl
@[simp] theorem delivered_nil : delivered [] = [] := rfl
@[simp] theorem lastEnd_nil : lastEnd [] = none := rfl

@[simp] theorem received_append (l l' : List Event) :
    received (l ++ l') = received l ++ received l' := by
  simp [received]

@[simp] theorem delivered_append (l l' : List Event) :
    delivered (l ++ l') = delivered l ++ delivered l' := by
  simp [delivered]

@[simp] theorem lastEnd_append (l l' : List Event) :
    lastEnd (l ++ l') = (lastEnd l').or (lastEnd l) := by
  simp [lastEnd, List.getLast?_append]

@[simp] theorem received_singleton (e : Event) : received [e] = e.bytes?.getD [] := by
  cases h : e.bytes? <;> simp [received, h]

@[simp] theorem delivered_singleton (e : Event) :
    delivered [e] = (e.hook?.bind Hook.message?).toList := by
  cases h : e.hook? with
  | none => simp [delivered, h]
  | some k => cases hk : k.message? <;> simp [delivered, h, hk]

@[simp] theorem lastEnd_singleton (e : Event) : lastEnd [e] = e.readEnd? := by
  cases h : e.readEnd? <;> simp [lastEnd, h]

theorem delivered_calls (ms : List Message) : (calls ms).filterMap Hook.message? = ms :=
  filterMap_calls (fun _ => rfl) (fun _ => rfl) ms

/-- The error a reader that ran to its end stops with: the failure of the first payload that
does not read, or else how the last read ended; `none` while it has not ended. -/
def endCause : Option Error → Option ReadEnd → Option (Option Error)
  | some e, _ => some (some e)
  | none, some .eof => some none
  | none, some (.fault e) => some (some e)
  | none, _ => none

/-- The reader has cut the buffer `B` into frames up to `k`: the bytes `s` received before the
rest of `B` are whole frames, whose payloads all read, as the messages `D`. -/
def Upto (r : Registry) (s B : Bytes) (k : Nat) (D : List Message) : Prop :=
  ∃ C, s = C ++ B.drop k ∧ (Frame.split C).2 = [] ∧ r.unmarshalAll (Frame.split C).1 = (D, none)

namespace Upto

variable {r : Registry} {s B : Bytes} {k : Nat} {D : List Message}

theorem readAll_eq (h : Upto r s B k D) :
    r.readAll s = (D ++ (r.readAll (B.drop k)).1, (r.readAll (B.drop k)).2) := by
  obtain ⟨C, rfl, hC, hD⟩ := h
  unfold Registry.readAll
  rw [Frame.split_append_of_rest_nil _ hC]
  exact Registry.unmarshalAll_append_of_ok hD _

theorem le_readAll (h : Upto r s B k D) : D <+: (r.readAll s).1 := by
  rw [h.readAll_eq]
  exact List.prefix_append _ _

theorem readAll_of_none (h : Upto r s B 0 D) (hb : Frame.decode? B = none) :
    r.readAll s = (D, none) := by
  rw [h.readAll_eq, List.drop_zero]
  simp [Registry.readAll, Frame.split_of_decode?_none hb, Registry.unmarshalAll]

theorem cut (h : Upto r s B k D) {p : Bytes} {n : Nat} {m : Message}
    (hd : Frame.decode? (B.drop k) = some (p, n)) (hm : r.unmarshal p = .ok m) :
    Upto r s B (k + n) (D ++ [m]) := by
  obtain ⟨C, rfl, hC, hD⟩ := h
  have htake : (Frame.split ((B.drop k).take n)).2 = [] := by
    rw [Frame.split_take_of_decode? hd]
  refine ⟨C ++ (B.drop k).take n, ?_, ?_, ?_⟩
  · rw [List.append_assoc, ← List.drop_drop, List.take_append_drop]
  · rw [Frame.split_append_of_rest_nil _ hC, htake]
  · rw [Frame.split_append_of_rest_nil _ hC, Frame.split_take_of_decode? hd,
      Registry.unmarshalAll_append_of_ok hD]
    simp [Registry.unmarshalAll, hm]

theorem refused (h : Upto r s B k D) {p : Bytes} {n : Nat} {e : Error}
    (hd : Frame.decode? (B.drop k) = some (p, n)) (he : r.unmarshal p = .error e) :
    r.readAll s = (D, some e) := by
  rw [h.readAll_eq]
  simp [Registry.readAll, Frame.split_of_decode? hd, Registry.unmarshalAll, he]

theorem compact (h : Upto r s B k D) : Upto r s (B.drop k) 0 D := by
  simpa [Upto] using h

theorem append (h : Upto r s B 0 D) (bytes : Bytes) : Upto r (s ++ bytes) (B ++ bytes) 0 D := by
  obtain ⟨C, rfl, hC, hD⟩ := h
  exact ⟨C, by simp, hC, hD⟩

end Upto

namespace World

/-- The reader's shutdown closes the channel with `c` once it has delivered all that the bytes
received hold: `c` is the failure of the first payload that does not read, or how the last read
ended. -/
def Ended (w : World) (c : Option Error) : Prop :=
  (w.registry.readAll (received w.log)).1 = delivered w.log ∧
    endCause (w.registry.readAll (received w.log)).2 (lastEnd w.log) = some c

def ReaderFacts (w : World) : ReaderAt → Prop
  | .read => Upto w.registry (received w.log) w.buffer 0 (delivered w.log) ∧
      Frame.decode? w.buffer = none
  | .unframe off last => Upto w.registry (received w.log) w.buffer off (delivered w.log) ∧
      lastEnd w.log = some last
  | .awaitLock off m last | .checkOpen off m last =>
      Upto w.registry (received w.log) w.buffer off (delivered w.log ++ [m]) ∧
        lastEnd w.log = some last
  | .delivering off _ last => Upto w.registry (received w.log) w.buffer off (delivered w.log) ∧
      lastEnd w.log = some last
  | .afterUnframe last => lastEnd w.log = some last ∧
      ((Upto w.registry (received w.log) w.buffer 0 (delivered w.log) ∧
        Frame.decode? w.buffer = none) ∨ w.closed = true)
  | .stopping (.claim c) => w.closed = true ∨ w.Ended c
  | .stopping _ | .exited => True

end World

def ReaderAt.active : ReaderAt → Bool
  | .stopping _ | .exited => false
  | _ => true

def ReaderAt.settled : ReaderAt → Bool
  | .stopping (.claim _) => false
  | .stopping _ | .exited => true
  | _ => false

theorem ReaderAt.active_of_settled {r : ReaderAt} (h : r.settled) : r.active = false := by
  cases r <;> simp_all [settled, active]

theorem World.readerFacts_of_settled (w : World) {r : ReaderAt} (h : r.settled) :
    w.ReaderFacts r := by
  match r, h with
  | .stopping .dropQueue, _ | .stopping .closeStream, _ | .stopping (.awaitLock _), _
  | .stopping (.deliverLost _), _ | .exited, _ => trivial

/-- How the reader, the bytes it received and the messages it delivered agree. -/
structure Reading (w : World) : Prop where
  delivered_le : delivered w.log <+: (w.registry.readAll (received w.log)).1
  facts : w.ReaderFacts w.reader
  claimed : ∀ c, (.reader, c) ∈ claims w.log → w.Ended c
  active : w.reader.active → ∀ c, (.reader, c) ∉ claims w.log

theorem Reading.fresh (r : Registry) : Reading (World.fresh r) where
  delivered_le := List.nil_prefix
  facts := ⟨⟨[], rfl, by rw [Frame.split_nil], by rw [Frame.split_nil]; rfl⟩, rfl⟩
  claimed := by simp [World.fresh]
  active := by simp [World.fresh]

/-- A step that leaves the reader's bytes, buffer and deliveries alone, adds no claim of the
reader's and does not reopen the channel. -/
structure Untouched (w w' : World) : Prop where
  registry_eq : w'.registry = w.registry
  buffer_eq : w'.buffer = w.buffer
  received_eq : received w'.log = received w.log
  delivered_eq : delivered w'.log = delivered w.log
  lastEnd_eq : lastEnd w'.log = lastEnd w.log
  claims_sub : ∀ c, (.reader, c) ∈ claims w'.log → (.reader, c) ∈ claims w.log
  closed_mono : w.closed = true → w'.closed = true

/-- Events that tell nothing of the reader: no bytes read, no message delivered, no claim of the
reader's. -/
def Event.offReader : Event → Bool
  | .received _ _ => false
  | .hook (.enter (.message _)) => false
  | .claimed t _ => t != .reader
  | _ => true

theorem Event.offReader_spec {e : Event} (h : e.offReader) :
    e.bytes? = none ∧ e.readEnd? = none ∧ e.hook?.bind Hook.message? = none ∧
      ∀ c, e.claim? ≠ some (.reader, c) := by
  cases e with
  | hook k => cases k with
    | enter d => cases d <;> simp_all [offReader, bytes?, readEnd?, hook?, Hook.message?, claim?]
    | leave d => simp [bytes?, readEnd?, hook?, Hook.message?, claim?]
  | _ => simp_all [offReader, bytes?, readEnd?, hook?, claim?]

theorem Untouched.of_log {w w' : World} (hreg : w'.registry = w.registry)
    (hbuf : w'.buffer = w.buffer) (hclosed : w.closed = true → w'.closed = true)
    (hlog : ∃ l, w'.log = w.log ++ l ∧ ∀ e ∈ l, e.offReader) : Untouched w w' := by
  obtain ⟨l, hl, hoff⟩ := hlog
  have hbytes : l.filterMap Event.bytes? = [] :=
    List.filterMap_eq_nil_iff.mpr fun e he => (Event.offReader_spec (hoff e he)).1
  have hends : l.filterMap Event.readEnd? = [] :=
    List.filterMap_eq_nil_iff.mpr fun e he => (Event.offReader_spec (hoff e he)).2.1
  have hmsgs : delivered l = [] := by
    rw [delivered, hooks, List.filterMap_filterMap]
    exact List.filterMap_eq_nil_iff.mpr fun e he => (Event.offReader_spec (hoff e he)).2.2.1
  refine ⟨hreg, hbuf, ?_, ?_, ?_, fun c hc => ?_, hclosed⟩
  · have hrec : received l = [] := by rw [received, hbytes, List.flatten_nil]
    rw [hl, received_append, hrec, List.append_nil]
  · rw [hl, delivered_append, hmsgs, List.append_nil]
  · have hend : lastEnd l = none := by rw [lastEnd, hends, List.getLast?_nil]
    rw [hl, lastEnd_append, hend, Option.none_or]
  · rw [hl, claims_append, List.mem_append] at hc
    refine hc.resolve_right fun hc' => ?_
    obtain ⟨e, he, hce⟩ := List.mem_filterMap.mp hc'
    exact (Event.offReader_spec (hoff e he)).2.2.2 c hce

theorem World.Ended.of_eq {w w' : World} {c : Option Error} (h : w.Ended c)
    (hreg : w'.registry = w.registry) (hrec : received w'.log = received w.log)
    (hdel : delivered w'.log = delivered w.log) (hend : lastEnd w'.log = lastEnd w.log) :
    w'.Ended c := by
  unfold World.Ended
  rw [hreg, hrec, hdel, hend]
  exact h

theorem World.ended_of_synced {w : World} {last : ReadEnd} {c : Option Error}
    (hup : Upto w.registry (received w.log) w.buffer 0 (delivered w.log))
    (hb : Frame.decode? w.buffer = none) (hend : lastEnd w.log = some last)
    (hc : endCause none (some last) = some c) : w.Ended c :=
  ⟨by rw [hup.readAll_of_none hb], by rw [hup.readAll_of_none hb, hend]; exact hc⟩

theorem World.Ended.untouched {w w' : World} {c : Option Error} (h : w.Ended c)
    (hu : Untouched w w') : w'.Ended c :=
  h.of_eq hu.registry_eq hu.received_eq hu.delivered_eq hu.lastEnd_eq

namespace World

variable (w : World)

theorem untouched_stopStep (t : Tid) (s : Stop) (hs : s.afterClaim ∨ t ≠ .reader) :
    Untouched w (w.stopStep t s) := by
  cases s with
  | claim c =>
    have ht : t ≠ .reader := hs.resolve_left (by simp [Stop.afterClaim])
    rw [stopStep]
    split
    · exact .of_log (by simp) (by simp) (by simp)
        ⟨[.returned t false none], by simp, by simp [Event.offReader]⟩
    · exact .of_log (by simp) (by simp) (by simp)
        ⟨[.claimed t c], by simp, by simp [Event.offReader, ht]⟩
  | dropQueue =>
    exact .of_log (by simp [stopStep]) (by simp [stopStep]) (by simp [stopStep])
      ⟨[], by simp [stopStep], by simp⟩
  | closeStream => exact .of_log rfl rfl id ⟨[], by simp [stopStep], by simp⟩
  | awaitLock r =>
    rw [stopStep]
    split
    · exact .of_log (by simp) (by simp) (by simp)
        ⟨[.hook (.enter .lost)], by simp, by simp [Event.offReader]⟩
    · exact .of_log rfl rfl id ⟨[], by simp, by simp⟩
  | deliverLost r =>
    exact .of_log (by simp [stopStep]) (by simp [stopStep]) (by simp [stopStep])
      ⟨[.hook (.leave .lost), .returned t true r], by simp [stopStep], by simp [Event.offReader]⟩

theorem stopStep_reader {t : Tid} (ht : t ≠ .reader) (s : Stop) :
    (w.stopStep t s).reader = w.reader := by
  cases s with
  | claim c =>
    rw [stopStep]
    split <;> simp [finish_reader, setStage_reader, ht]
  | awaitLock r =>
    rw [stopStep]
    split <;> simp [setStage_reader, ht]
  | _ => simp [stopStep, setStage_reader, finish_reader, ht]

theorem settled_stopStep {s : Stop} (hr : w.reader = .stopping s) (hs : s.afterClaim) :
    (w.stopStep .reader s).reader.settled := by
  cases s with
  | claim c => simp [Stop.afterClaim] at hs
  | awaitLock r =>
    rw [stopStep]
    split <;> simp [setStage_reader, hr, ReaderAt.settled]
  | _ => simp [stopStep, setStage_reader, finish_reader, hr, ReaderAt.settled]

theorem untouched_writerStep : Untouched w w.writerStep ∧ w.writerStep.reader = w.reader := by
  unfold writerStep
  split
  · split
    · exact ⟨.of_log rfl rfl id ⟨[], by simp, by simp⟩, rfl⟩
    · split
      · exact ⟨.of_log rfl rfl id ⟨[], by simp, by simp⟩, rfl⟩
      · exact ⟨.of_log rfl rfl id ⟨_, rfl, by simp [Event.offReader]⟩, rfl⟩
  · exact ⟨w.untouched_stopStep _ _ (.inr (by simp)), w.stopStep_reader (by simp) _⟩
  all_goals exact ⟨.of_log rfl rfl id ⟨[], by simp, by simp⟩, rfl⟩

theorem untouched_writerWrite (ans : WriteEnd) :
    Untouched w (w.writerWrite ans) ∧ (w.writerWrite ans).reader = w.reader := by
  unfold writerWrite
  split
  · split
    · exact ⟨.of_log rfl rfl id ⟨_, rfl, by simp [Event.offReader]⟩, rfl⟩
    · exact ⟨.of_log rfl rfl id ⟨_, rfl, by simp [Event.offReader]⟩, rfl⟩
  · exact ⟨.of_log rfl rfl id ⟨[], by simp, by simp⟩, rfl⟩

theorem untouched_callerStep (i : Nat) :
    Untouched w (w.callerStep i) ∧ (w.callerStep i).reader = w.reader := by
  unfold callerStep
  split
  · split
    · exact ⟨.of_log rfl rfl id ⟨_, rfl, by simp [Event.offReader]⟩, rfl⟩
    · split
      · exact ⟨.of_log rfl rfl id ⟨_, rfl, by simp [Event.offReader]⟩, rfl⟩
      · exact ⟨.of_log rfl rfl id ⟨[], by simp, by simp⟩, rfl⟩
  · split
    · exact ⟨.of_log rfl rfl id ⟨_, rfl, by simp [Event.offReader]⟩, rfl⟩
    · exact ⟨.of_log rfl rfl id ⟨_, rfl, by simp [Event.offReader]⟩, rfl⟩
  · exact ⟨w.untouched_stopStep _ _ (.inr (by simp)), w.stopStep_reader (by simp) _⟩
  · exact ⟨.of_log rfl rfl id ⟨[], by simp, by simp⟩, rfl⟩

theorem untouched_call (i : Nat) (c : CallerAt) :
    Untouched w (w.call i c) ∧ (w.call i c).reader = w.reader := by
  unfold call
  split <;> exact ⟨.of_log rfl rfl id ⟨[], by simp, by simp⟩, rfl⟩

theorem untouched_streamClose {t : Tid} (ht : t ≠ .reader) (r : Option Error) :
    Untouched w (w.streamClose t r) ∧ (w.streamClose t r).reader = w.reader := by
  unfold streamClose
  split
  · exact ⟨.of_log (by simp) (by simp) (by simp)
      ⟨[.streamClosed t r], by simp, by simp [Event.offReader]⟩, by simp [setStage_reader, ht]⟩
  · exact ⟨.of_log rfl rfl id ⟨[], by simp, by simp⟩, rfl⟩

end World

namespace Reading

variable {w : World}

theorem untouched (h : Reading w) {w' : World} (hu : Untouched w w') (hr : w'.reader = w.reader) :
    Reading w' := by
  refine ⟨?_, ?_, fun c hc => (h.claimed c (hu.claims_sub c hc)).untouched hu, ?_⟩
  · rw [hu.registry_eq, hu.received_eq, hu.delivered_eq]
    exact h.delivered_le
  · -- each place's facts carry over; the channel can only have closed meanwhile
    have hf := h.facts
    rw [hr]
    cases hw : w.reader with
    | stopping s =>
      rw [hw] at hf
      cases s with
      | claim c => exact hf.imp hu.closed_mono fun he => he.untouched hu
      | _ => trivial
    | exited => trivial
    | afterUnframe last =>
      rw [hw] at hf
      simp only [World.ReaderFacts, hu.registry_eq, hu.received_eq, hu.buffer_eq, hu.delivered_eq,
        hu.lastEnd_eq] at hf ⊢
      exact ⟨hf.1, hf.2.imp_right hu.closed_mono⟩
    | _ =>
      rw [hw] at hf
      simp only [World.ReaderFacts, hu.registry_eq, hu.received_eq, hu.buffer_eq, hu.delivered_eq,
        hu.lastEnd_eq] at hf ⊢
      exact hf
  · intro ha c hc
    rw [hr] at ha
    exact h.active ha c (hu.claims_sub c hc)

theorem settle (h : Reading w) {w' : World} (hu : Untouched w w') (hr : w'.reader.settled) :
    Reading w' := by
  refine ⟨?_, w'.readerFacts_of_settled hr, fun c hc => (h.claimed c (hu.claims_sub c hc)).untouched hu,
    ?_⟩
  · rw [hu.registry_eq, hu.received_eq, hu.delivered_eq]
    exact h.delivered_le
  · intro ha
    rw [ReaderAt.active_of_settled hr] at ha
    cases ha

theorem moves (h : Reading w) {w' : World} (hactive : w.reader.active)
    (hclaims : claims w'.log = claims w.log)
    (hle : delivered w'.log <+: (w'.registry.readAll (received w'.log)).1)
    (hfacts : w'.ReaderFacts w'.reader) : Reading w' := by
  have hnc := h.active hactive
  refine ⟨hle, hfacts, fun c hc => absurd (hclaims ▸ hc) (hnc c), fun _ c hc => ?_⟩
  exact hnc c (hclaims ▸ hc)

theorem stopStep (h : Reading w) {s : Stop} (hr : w.reader = .stopping s) :
    Reading (w.stopStep .reader s) := by
  cases s with
  | claim c =>
    rw [World.stopStep]
    split
    · exact h.settle (.of_log (by simp) (by simp) (by simp)
        ⟨[.returned .reader false none], by simp, by simp [Event.offReader]⟩)
        (by simp [World.finish_reader, ReaderAt.settled])
    · next hc =>
      have hf := h.facts
      rw [hr] at hf
      have hended : w.Ended c := hf.resolve_left hc
      refine ⟨?_, World.readerFacts_of_settled _ (by simp [World.setStage_reader, ReaderAt.settled]),
        fun c' hc' => ?_, fun ha => ?_⟩
      · simpa [Event.bytes?, Event.hook?] using h.delivered_le
      · simp only [World.setStage_log, World.emit_log, World.closeWith_log, claims_append,
          claims_cons, Event.claim?, Option.toList_some, claims_nil, List.append_nil,
          List.mem_append, List.mem_singleton, Prod.mk.injEq, true_and] at hc'
        have hend : ∀ c'', w.Ended c'' →
            (((w.closeWith c).emit (.claimed .reader c)).setStage .dropQueue .reader).Ended c'' :=
          fun c'' he => he.of_eq (by simp) (by simp [Event.bytes?])
            (by simp [Event.hook?]) (by simp [Event.readEnd?])
        rcases hc' with hc' | rfl
        · exact hend c' (h.claimed c' hc')
        · exact hend c' hended
      · simp [World.setStage_reader, ReaderAt.active] at ha
  | dropQueue | closeStream | awaitLock _ | deliverLost _ =>
    exact h.settle (w.untouched_stopStep _ _ (.inl rfl)) (w.settled_stopStep hr rfl)

theorem readerStep (h : Reading w) : Reading w.readerStep := by
  have hf := h.facts
  have hle := h.delivered_le
  unfold World.readerStep
  split
  · next off last hr =>
    rw [hr] at hf
    obtain ⟨hup, hend⟩ := hf
    have ha : w.reader.active := by rw [hr]; rfl
    split
    · next hd =>
      -- no whole frame left: the buffer is compacted, and the reader acts on how the read ended
      refine h.moves ha (by simp) (by simpa using hle) ?_
      simp [World.ReaderFacts]
      exact ⟨hend, .inl ⟨hup.compact, hd⟩⟩
    · next p n hd =>
      split
      · next e he =>
        -- a payload that does not read: the reader stops with its failure
        have hall := hup.refused hd he
        refine h.moves ha (by simp) (by simpa using hle) ?_
        simp only [World.ReaderFacts, World.setReader_reader, World.setReader_closed]
        have hended : w.Ended (some e) := ⟨by rw [hall], by rw [hall]; rfl⟩
        exact .inr (hended.of_eq rfl rfl rfl rfl)
      · next m hm =>
        refine h.moves ha (by simp) (by simpa using hle) ?_
        simp [World.ReaderFacts]
        exact ⟨hup.cut hd hm, hend⟩
  · next off m last hr =>
    rw [hr] at hf
    split
    · -- the reader takes the deliver lock
      refine h.moves (by rw [hr]; rfl) (by simp) (by simpa using hle) ?_
      simpa [World.ReaderFacts] using hf
    · exact h
  · next off m last hr =>
    rw [hr] at hf
    obtain ⟨hup, hend⟩ := hf
    split
    · next hc =>
      -- the channel closed meanwhile: `m` is not delivered
      refine h.moves (by rw [hr]; rfl) (by simp) (by simpa using hle) ?_
      simp [World.ReaderFacts]
      exact ⟨hend, .inr hc⟩
    · -- the hook is called with `m`, the next of what the bytes hold
      refine h.moves (by rw [hr]; rfl) (by simp [Event.claim?]) ?_ ?_
      · simpa [Event.bytes?, Event.hook?, Hook.message?] using hup.le_readAll
      · simp [World.ReaderFacts, Event.hook?, Hook.message?, Event.readEnd?, Event.bytes?]
        exact ⟨hup, hend⟩
  · next off m last hr =>
    rw [hr] at hf
    refine h.moves (by rw [hr]; rfl) (by simp [Event.claim?]) ?_ ?_
    · simpa [Event.bytes?, Event.hook?, Hook.message?] using hle
    · simpa [World.ReaderFacts, Event.hook?, Hook.message?, Event.readEnd?, Event.bytes?] using hf
  · next last hr =>
    rw [hr] at hf
    obtain ⟨hend, hsync⟩ := hf
    have ha : w.reader.active := by rw [hr]; rfl
    split
    · -- the end of input: all that the bytes hold is delivered, and the reader stops with none
      refine h.moves ha (by simp) (by simpa using hle) ?_
      simp only [World.ReaderFacts, World.setReader_reader, World.setReader_closed]
      exact hsync.symm.imp_right fun hs => (World.ended_of_synced hs.1 hs.2 hend rfl).of_eq rfl rfl rfl rfl
    · refine h.moves ha (by simp) (by simpa using hle) ?_
      simp only [World.ReaderFacts, World.setReader_reader, World.setReader_closed]
      exact hsync.symm.imp_right fun hs => (World.ended_of_synced hs.1 hs.2 hend rfl).of_eq rfl rfl rfl rfl
    · refine h.moves ha (by simp) (by simpa using hle) ?_
      split
      · trivial
      · next hc =>
        simpa [World.ReaderFacts] using hsync.resolve_right hc
  · next s hr => exact h.stopStep hr
  all_goals exact h

theorem readerRead (h : Reading w) (bytes : Bytes) (last : ReadEnd) :
    Reading (w.readerRead bytes last) := by
  have hf := h.facts
  unfold World.readerRead
  split
  · next hr =>
    rw [hr] at hf
    obtain ⟨hup, hb⟩ := hf
    have ha : w.reader.active := by rw [hr]; rfl
    split
    · split
      · next he =>
        -- an empty read tells only how the input went on
        obtain rfl : bytes = [] := List.isEmpty_iff.mp he
        refine h.moves ha (by simp [Event.claim?]) ?_ ?_
        · simpa [Event.bytes?, Event.hook?] using h.delivered_le
        · simp [World.ReaderFacts, Event.bytes?, Event.hook?, Event.readEnd?]
          exact .inl ⟨hup, hb⟩
      · refine h.moves ha (by simp [Event.claim?]) ?_ ?_
        · simpa [Event.bytes?, Event.hook?] using
            h.delivered_le.trans (w.registry.readAll_prefix _ bytes)
        · simp [World.ReaderFacts, Event.bytes?, Event.hook?, Event.readEnd?]
          exact hup.append bytes
    · exact h
  · exact h

theorem streamClose (h : Reading w) (t : Tid) (r : Option Error) : Reading (w.streamClose t r) := by
  by_cases ht : t = .reader
  · subst ht
    unfold World.streamClose
    split
    · exact h.settle (.of_log (by simp) (by simp) (by simp)
        ⟨[.streamClosed .reader r], by simp, by simp [Event.offReader]⟩)
        (by simp [World.setStage_reader, ReaderAt.settled])
    · exact h
  · obtain ⟨hu, hr⟩ := w.untouched_streamClose ht r
    exact h.untouched hu hr

theorem step (h : Reading w) (a : Act) : Reading (w.step a) := by
  cases a with
  | run t =>
    cases t with
    | reader => exact h.readerStep
    | writer =>
      obtain ⟨hu, hr⟩ := w.untouched_writerStep
      exact h.untouched hu hr
    | caller i =>
      obtain ⟨hu, hr⟩ := w.untouched_callerStep i
      exact h.untouched hu hr
  | read bytes last => exact h.readerRead bytes last
  | write ans =>
    obtain ⟨hu, hr⟩ := w.untouched_writerWrite ans
    exact h.untouched hu hr
  | closeStream t r => exact h.streamClose t r
  | callClose i =>
    obtain ⟨hu, hr⟩ := w.untouched_call i (.stopping (.claim none))
    exact h.untouched hu hr
  | callSend i m =>
    obtain ⟨hu, hr⟩ := w.untouched_call i (.sending m)
    exact h.untouched hu hr

theorem run (h : Reading w) (acts : List Act) : Reading (w.run acts) := by
  induction acts generalizing w with
  | nil => exact h
  | cons a acts ih => exact ih (h.step a)

end Reading

theorem delivered_of_hooks {l : List Event} {ms : List Message}
    (h : hooks l = calls ms ++ [.enter .lost, .leave .lost]) : delivered l = ms := by
  rw [delivered, h, List.filterMap_append, delivered_calls]
  simp [Hook.message?]

/-- The reader delivers the first messages that the leading whole frames of what it read hold,
all of them while it waits for a read, then `lost` once after a shutdown; its own shutdown leaves
nothing undelivered and reports the failure that stopped it. -/
theorem reader_delivers (r : Registry) (acts : List Act) :
    let w := (World.fresh r).run acts
    let s := received w.log
    delivered w.log <+: (r.readAll s).1 ∧
    (w.reader = .read → r.readAll s = (delivered w.log, none)) ∧
    (wins w.log ≠ [] → ∃ ms, ms <+: (r.readAll s).1 ∧
      hooks w.log = calls ms ++ [.enter .lost, .leave .lost]) ∧
    (∀ c, claims w.log = [(.reader, c)] → wins w.log ≠ [] →
      hooks w.log = calls (r.readAll s).1 ++ [.enter .lost, .leave .lost] ∧
      endCause (r.readAll s).2 (lastEnd w.log) = some w.cause) := by
  intro w s
  have h : Reading w := (Reading.fresh r).run acts
  have hi : Inv w := inv_run r acts
  have hreg : w.registry = r := World.registry_run r acts
  have hle : delivered w.log <+: (r.readAll s).1 := by
    rw [← hreg]
    exact h.delivered_le
  refine ⟨hle, fun hr => ?_, fun hw => ?_, fun c hc hw => ?_⟩
  · have hf := h.facts
    rw [hr] at hf
    rw [← hreg]
    exact hf.1.readAll_of_none hf.2
  · obtain ⟨ms, hms⟩ := hi.hooks_of_won hw
    refine ⟨ms, ?_, hms⟩
    rw [← delivered_of_hooks hms]
    exact hle
  · obtain ⟨ms, hms⟩ := hi.hooks_of_won hw
    obtain ⟨hall, hcause⟩ := h.claimed c (by rw [hc]; simp)
    rw [hreg] at hall hcause
    have hdel := delivered_of_hooks hms
    have hc' : c = w.cause := by
      rcases hi.closing.claims_eq with hn | ⟨t, ht⟩
      · rw [hc] at hn
        cases hn
      · rw [hc, List.singleton_inj, Prod.mk.injEq] at ht
        exact ht.2
    refine ⟨by rw [hms, hall, hdel], by rw [← hc']; exact hcause⟩

end Threads

end FramedLink
