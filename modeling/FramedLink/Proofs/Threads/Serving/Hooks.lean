import FramedLink.Proofs.Threads.Serving

namespace FramedLink

theorem Registry.unmarshal_ne_signal {r : Registry} (hr : r.NoSignal) (p : Bytes) (s : Signal) :
    r.unmarshal p ≠ .ok (.signal s) := by
  intro h
  unfold unmarshal at h
  split at h
  · cases h
  · simp only at h
    split at h
    · cases h
    · split at h
      · cases h
      · next c hc =>
        split at h
        · cases h
        · next m hd =>
          cases h
          exact hr c (mem_of_find? hc) _ _ hd

theorem Registry.unmarshalAll_noSignal {r : Registry} (hr : r.NoSignal) (ps : List Bytes)
    (s : Signal) : .signal s ∉ (r.unmarshalAll ps).1 := by
  induction ps with
  | nil => simp [unmarshalAll]
  | cons p ps ih =>
    simp only [unmarshalAll]
    split
    · simp
    · next m hm =>
      rw [List.mem_cons, not_or]
      refine ⟨fun hs => ?_, ih⟩
      subst hs
      exact unmarshal_ne_signal hr p s hm

namespace Threads

open Serving

def Hook.entered : Hook → Option Message
  | .enter d => some (handed d)
  | .leave _ => none

def entered (l : List Event) : List Message := (hooks l).filterMap Hook.entered

def inFlight (l : List Event) : Option Delivery :=
  match (hooks l).getLast? with
  | some (.enter d) => some d
  | _ => none

@[simp] theorem Hook.message?_enter_message (m : Message) :
    Hook.message? (.enter (.message m)) = some m := rfl
@[simp] theorem Hook.message?_enter_lost : Hook.message? (.enter .lost) = none := rfl
@[simp] theorem Hook.message?_leave (d : Delivery) : Hook.message? (.leave d) = none := rfl

theorem entered_calls (ms : List Message) : (calls ms).filterMap Hook.entered = ms :=
  filterMap_calls (fun _ => rfl) (fun _ => rfl) ms

theorem getLast?_calls (ms : List Message) (d : Delivery) :
    (calls ms).getLast? ≠ some (.enter d) := by
  induction ms with
  | nil => simp [calls]
  | cons m ms ih =>
    rw [calls, List.flatMap_cons]
    cases hm : ms with
    | nil => simp
    | cons m' ms' =>
      rw [hm] at ih
      simpa [List.getLast?_append, calls] using ih

theorem filterMap_hooks_le {w : World} (h : Inv w) {f : Hook → Option Message}
    (hf : ∀ m, f (.enter (.message m)) = some m) (hl : ∀ d, f (.leave d) = none) :
    (hooks w.log).filterMap f <+: delivered w.log ++ (f (.enter .lost)).toList := by
  obtain ⟨ms, tail, hhooks, htail⟩ := h.hooks_shape
  unfold delivered
  rw [hhooks, List.filterMap_append, List.filterMap_append, filterMap_calls hf hl, delivered_calls]
  rcases htail with rfl | ⟨m, rfl⟩ | rfl | rfl <;> cases hlost : f (.enter .lost) <;>
    simp [List.filterMap_cons, hf, hl, hlost]

theorem entered_prefix_delivered {w : World} (h : Inv w) :
    entered w.log <+: delivered w.log ++ [.signal .clientLost] :=
  filterMap_hooks_le h (fun _ => rfl) (fun _ => rfl)

theorem hooks_step (w : World) (a : Act) :
    hooks (w.step a).log = hooks w.log ++ hookMoves w (w.step a) := by
  obtain ⟨t, ht⟩ := (World.grows_step w a).log_extends
  rw [hookMoves, ← ht, hooks_append, List.drop_left]

theorem enter_step {w w' : World} (h' : Inv w') {d : Delivery}
    (hh : hooks w'.log = hooks w.log ++ [.enter d]) :
    inFlight w.log = none ∧ Hook.enter .lost ∉ hooks w.log ∧
      (∀ m, d = .message m → Hook.enter .lost ∉ hooks w'.log) := by
  obtain ⟨ms, tail, hshape, htail⟩ := h'.hooks_shape
  rw [hh] at hshape
  have hcalls : hooks w.log = calls ms ∧ ((∃ m, d = .message m) ∨ d = .lost) := by
    rcases htail with rfl | ⟨m, rfl⟩ | rfl | rfl
    · -- the calls all returned: the last hook is a return
      have := getLast?_calls ms d
      rw [List.append_nil] at hshape
      rw [← hshape, List.getLast?_concat] at this
      exact absurd rfl this
    · obtain ⟨h1, h2⟩ := List.append_inj' hshape rfl
      simp only [List.cons.injEq, Hook.enter.injEq, and_true] at h2
      exact ⟨h1, .inl ⟨m, h2⟩⟩
    · obtain ⟨h1, h2⟩ := List.append_inj' hshape rfl
      simp only [List.cons.injEq, Hook.enter.injEq, and_true] at h2
      exact ⟨h1, .inr h2⟩
    · have hlast := congrArg List.getLast? hshape
      simp at hlast
  obtain ⟨hw, hd⟩ := hcalls
  refine ⟨?_, by rw [hw]; exact lost_not_mem_calls ms, fun m hm => ?_⟩
  · unfold inFlight
    rw [hw]
    split
    · next d' hl => exact absurd hl (getLast?_calls ms d')
    · rfl
  · subst hm
    rw [hh, hw]
    simp [lost_not_mem_calls]

theorem leave_step {w w' : World} {d : Delivery} (hh : hooks w'.log = hooks w.log ++ [.leave d]) :
    inFlight w'.log = none ∧ entered w'.log = entered w.log := by
  refine ⟨?_, by simp [entered, hh, Hook.entered]⟩
  unfold inFlight
  rw [hh, List.getLast?_concat]

theorem filterMap_of_inFlight {l : List Event} {d : Delivery} (hf : inFlight l = some d)
    {f : Hook → Option Message} {x : Message} (hx : f (.enter d) = some x) :
    (hooks l).filterMap f = ((hooks l).filterMap f).dropLast ++ [x] := by
  unfold inFlight at hf
  split at hf
  · next d' hl =>
    cases hf
    obtain ⟨hs, hs'⟩ := List.getLast?_eq_some_iff.mp hl
    rw [hs']
    simp [hx]
  · cases hf

theorem entered_of_inFlight {l : List Event} {d : Delivery} (hf : inFlight l = some d) :
    entered l = (entered l).dropLast ++ [handed d] :=
  filterMap_of_inFlight hf rfl

theorem inFlight_enter {l l' : List Event} {d : Delivery}
    (hh : hooks l' = hooks l ++ [.enter d]) :
    inFlight l' = some d ∧ entered l' = entered l ++ [handed d] := by
  refine ⟨?_, by simp [entered, hh, Hook.entered]⟩
  unfold inFlight
  rw [hh, List.getLast?_concat]

theorem entered_congr {l l' : List Event} (h : hooks l' = hooks l) : entered l' = entered l := by
  simp [entered, h]

theorem inFlight_congr {l l' : List Event} (h : hooks l' = hooks l) : inFlight l' = inFlight l := by
  simp [inFlight, h]

theorem enter_mem_of_inFlight {l : List Event} {d : Delivery} (hf : inFlight l = some d) :
    Hook.enter d ∈ hooks l := by
  unfold inFlight at hf
  split at hf
  · next d' hl =>
    cases hf
    exact List.mem_of_getLast? hl
  · cases hf

theorem mem_delivered_of_enter {l l' : List Event} {m : Message}
    (hh : hooks l' = hooks l ++ [.enter (.message m)]) : m ∈ delivered l' := by
  simp [delivered, hh]

theorem delivered_noSignal {w : World} (h : Reading w) (hr : w.registry.NoSignal) (s : Signal) :
    .signal s ∉ delivered w.log := fun hm => by
  obtain ⟨t, ht⟩ := h.delivered_le
  exact w.registry.unmarshalAll_noSignal hr _ s (ht ▸ List.mem_append_left t hm)

theorem handed_mem_entered {l : List Event} {d : Delivery} (hf : inFlight l = some d) :
    handed d ∈ entered l := by
  rw [entered_of_inFlight hf]
  exact List.mem_append_right _ (List.mem_singleton_self _)

theorem won_entered {w : World} (h : Inv w) (hw : wins w.log ≠ []) :
    inFlight w.log = none ∧ Message.signal .clientLost ∈ entered w.log := by
  obtain ⟨ms, hms⟩ := h.hooks_of_won hw
  refine ⟨?_, ?_⟩
  · unfold inFlight
    simp [hms, List.getLast?_append]
  · simp [entered, hms, entered_calls, Hook.entered, handed]

end Threads
end FramedLink
