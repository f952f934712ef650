import Mathlib.Data.List.Nodup
import FramedLink.Proofs.Wire

namespace FramedLink.Registry

theorem reserved_eq_false_iff {id : Int32} :
    reserved id = false ↔ id ≠ nullTypeId ∧ id ≠ controlTypeId := by
  simp [reserved]

theorem reserved_eq_true_iff {id : Int32} :
    reserved id = true ↔ id = nullTypeId ∨ id = controlTypeId := by
  simp [reserved]

theorem isSome_find? {r : Registry} {id : Int32} :
    (r.find? id).isSome = true ↔ id ∈ r.codecs.map (·.id) := by
  simp [find?, List.find?_isSome]

theorem find?_eq_some_iff {r : Registry} (hnd : (r.codecs.map (·.id)).Nodup) {id : Int32}
    {c : Codec} : r.find? id = some c ↔ c ∈ r.codecs ∧ c.id = id := by
  constructor
  · intro h
    exact ⟨mem_of_find? h, find?_id h⟩
  · rintro ⟨hc, rfl⟩
    obtain ⟨d, hd⟩ := Option.isSome_iff_exists.mp (isSome_find?.mpr (List.mem_map_of_mem hc))
    -- the ids are distinct, so the codec found under `c`'s id is `c`
    have hdc : d = c := List.inj_on_of_nodup_map hnd (mem_of_find? hd) hc (find?_id hd)
    rw [hd, hdc]

theorem find?_reserved {r : Registry} (hres : ∀ c ∈ r.codecs, reserved c.id = false) {id : Int32}
    (hid : reserved id = true) : r.find? id = none := by
  refine Option.eq_none_iff_forall_ne_some.mpr fun c hc => ?_
  rw [← find?_id hc, hres c (mem_of_find? hc)] at hid
  cases hid

theorem addAll_cons_of_new {r : Registry} {c : Codec} (cs : List Codec)
    (hres : reserved c.id = false) (hnew : c.id ∉ r.codecs.map (·.id)) :
    r.addAll (c :: cs) = addAll ⟨r.codecs ++ [c]⟩ cs := by
  have hfind : (r.find? c.id).isSome = false := Bool.eq_false_iff.mpr (mt isSome_find?.mp hnew)
  simp only [addAll, hres, hfind, Bool.false_eq_true, if_false]

theorem addAll_eq_ok {r r' : Registry} {cs : List Codec} (hr : (r.codecs.map (·.id)).Nodup) :
    r.addAll cs = .ok r' ↔ (∀ c ∈ cs, reserved c.id = false) ∧
      ((r.codecs ++ cs).map (·.id)).Nodup ∧ r' = ⟨r.codecs ++ cs⟩ := by
  induction cs generalizing r with
  | nil =>
    simp only [addAll, Except.ok.injEq, List.append_nil, List.not_mem_nil, false_imp_iff,
      implies_true, hr, true_and]
    exact eq_comm
  | cons c cs ih =>
    by_cases hres : reserved c.id = true
    · simp [addAll, hres]
    · have hres : reserved c.id = false := by simpa using hres
      by_cases hnew : c.id ∈ r.codecs.map (·.id)
      · have hfind : (r.find? c.id).isSome = true := isSome_find?.mpr hnew
        have hdup : ¬ ((r.codecs ++ c :: cs).map (·.id)).Nodup := by
          rw [List.map_append, List.nodup_append]
          exact fun h => h.2.2 c.id hnew c.id List.mem_cons_self rfl
        simp only [addAll, hres, hfind, Bool.false_eq_true, if_false, if_true, reduceCtorEq,
          false_iff]
        exact fun h => hdup h.2.1
      · have hr' : ((r.codecs ++ [c]).map (·.id)).Nodup := by
          simpa [List.nodup_append, hr] using hnew
        rw [addAll_cons_of_new cs hres hnew, ih hr']
        simp [hres]

theorem addAll_eq_error {r : Registry} {cs : List Codec} {e : Error}
    (hr : (r.codecs.map (·.id)).Nodup) (h : r.addAll cs = .error e) :
    ∃ pre c post, cs = pre ++ c :: post ∧ (∀ d ∈ pre, reserved d.id = false) ∧
      ((r.codecs ++ pre).map (·.id)).Nodup ∧
      (if reserved c.id then e = .reservedType c.id
        else c.id ∈ (r.codecs ++ pre).map (·.id) ∧ e = .duplicateType c.id) := by
  induction cs generalizing r with
  | nil => cases h
  | cons c cs ih =>
    by_cases hres : reserved c.id = true
    · simp only [addAll, hres, if_true, Except.error.injEq] at h
      exact ⟨[], c, cs, rfl, by simp, by simpa using hr, by simp [hres, h]⟩
    · have hres : reserved c.id = false := by simpa using hres
      by_cases hnew : c.id ∈ r.codecs.map (·.id)
      · have hfind : (r.find? c.id).isSome = true := isSome_find?.mpr hnew
        simp only [addAll, hres, hfind, Bool.false_eq_true, if_false, if_true,
          Except.error.injEq] at h
        exact ⟨[], c, cs, rfl, by simp, by simpa using hr, by simp [hres, hnew, h]⟩
      · have hr' : ((r.codecs ++ [c]).map (·.id)).Nodup := by
          simpa [List.nodup_append, hr] using hnew
        rw [addAll_cons_of_new cs hres hnew] at h
        obtain ⟨pre, d, post, rfl, hpre, hnd, hd⟩ := ih hr' h
        refine ⟨c :: pre, d, post, rfl, ?_, by simpa using hnd, by simpa using hd⟩
        intro x hx
        rcases List.mem_cons.mp hx with rfl | hx
        · exact hres
        · exact hpre x hx

theorem build_eq_ok {cs : List Codec} {r : Registry} :
    build cs = .ok r ↔ (∀ c ∈ cs, reserved c.id = false) ∧ (cs.map (·.id)).Nodup ∧ r = ⟨cs⟩ := by
  simpa [build, empty] using @addAll_eq_ok empty r cs List.nodup_nil

theorem build_eq_error {cs : List Codec} {e : Error} (h : build cs = .error e) :
    ∃ pre c post, cs = pre ++ c :: post ∧ (∀ d ∈ pre, reserved d.id = false) ∧
      (pre.map (·.id)).Nodup ∧
      (if reserved c.id then e = .reservedType c.id
        else c.id ∈ pre.map (·.id) ∧ e = .duplicateType c.id) := by
  obtain ⟨pre, c, post, hcs, hpre, hnd, hc⟩ := @addAll_eq_error empty cs e List.nodup_nil h
  exact ⟨pre, c, post, hcs, hpre, hnd, hc⟩

theorem ids_increasing {r : Registry} (h : (r.codecs.map (·.id)).Nodup) :
    r.ids.Pairwise (· < ·) := by
  have hle : r.ids.Pairwise fun a b => decide (a ≤ b) = true :=
    @List.pairwise_mergeSort Int32 (fun a b => decide (a ≤ b))
      (fun _ _ _ hab hbc => decide_eq_true (Int32.le_trans (of_decide_eq_true hab)
        (of_decide_eq_true hbc)))
      (fun a b => by simpa using Int32.le_total a b) (r.codecs.map Codec.id)
  have hnd : r.ids.Nodup := (List.mergeSort_perm _ _).nodup_iff.mpr h
  exact (hle.and hnd).imp fun hab => Int32.lt_iff_le_and_ne.mpr ⟨of_decide_eq_true hab.1, hab.2⟩

/-- A registry is built from a list of codecs exactly when no codec claims the null or the
control type id and no two claim the same id. A failed build names the first codec, in the order
given, that claims a reserved id or an id an earlier codec claimed, checking the reserved ids
first. A built registry lists exactly the ids given, each once, strictly increasing, and looks up
exactly the codecs given: none for any other id, the null and the control id among them. -/
theorem build_checks (cs : List Codec) :
    ((∃ r, build cs = .ok r) ↔
      (∀ c ∈ cs, c.id ≠ nullTypeId ∧ c.id ≠ controlTypeId) ∧ (cs.map (·.id)).Nodup) ∧
    (∀ e, build cs = .error e → ∃ pre c post, cs = pre ++ c :: post ∧
      (∀ d ∈ pre, d.id ≠ nullTypeId ∧ d.id ≠ controlTypeId) ∧ (pre.map (·.id)).Nodup ∧
      (if c.id = nullTypeId ∨ c.id = controlTypeId then e = .reservedType c.id
        else c.id ∈ pre.map (·.id) ∧ e = .duplicateType c.id)) ∧
    (∀ r, build cs = .ok r → r.ids.Pairwise (· < ·) ∧ r.ids.Perm (cs.map (·.id)) ∧
      (∀ id c, r.find? id = some c ↔ c ∈ cs ∧ c.id = id) ∧
      r.find? nullTypeId = none ∧ r.find? controlTypeId = none) := by
  refine ⟨⟨fun ⟨r, hr⟩ => ?_, fun ⟨hres, hnd⟩ => ?_⟩, fun e he => ?_, fun r hr => ?_⟩
  · obtain ⟨hres, hnd, -⟩ := build_eq_ok.mp hr
    exact ⟨fun c hc => reserved_eq_false_iff.mp (hres c hc), hnd⟩
  · exact ⟨⟨cs⟩, build_eq_ok.mpr ⟨fun c hc => reserved_eq_false_iff.mpr (hres c hc), hnd, rfl⟩⟩
  · obtain ⟨pre, c, post, hcs, hpre, hnd, hc⟩ := build_eq_error he
    refine ⟨pre, c, post, hcs, fun d hd => reserved_eq_false_iff.mp (hpre d hd), hnd, ?_⟩
    by_cases hr : reserved c.id = true
    · rw [if_pos (reserved_eq_true_iff.mp hr)]
      simpa [hr] using hc
    · rw [if_neg (mt reserved_eq_true_iff.mpr hr)]
      simpa [hr] using hc
  · obtain ⟨hres, hnd, rfl⟩ := build_eq_ok.mp hr
    exact ⟨ids_increasing hnd, List.mergeSort_perm _ _, fun _ _ => find?_eq_some_iff hnd,
      find?_reserved hres (by simp [reserved]), find?_reserved hres (by simp [reserved])⟩

theorem equal_eq_true {r : Registry} (ht : r.TextOnly) {a b : Option Message} :
    r.equal a b = true ↔ a = b ∧ (a = none ∨ (∃ s, a = some (.signal s)) ∨
      ∃ id body, a = some (.text id body) ∧ (r.find? id).isSome) := by
  match a, b with
  | none, none => simp [equal]
  | none, some _ | some _, none => simp [equal]
  | some (.signal s), some b => cases b <;> simp [equal]
  | some (.text i x), some (.signal _) | some (.foreign i), some (.signal _) => simp [equal]
  | some (.text i x), some (.text j y) =>
    cases hc : r.find? i with
    | none => simp [equal, Message.typeId, hc]
    | some c =>
      obtain rfl := find?_text ht hc
      simp [equal, Message.typeId, hc, TextCodec.equal, and_comm]
  | some (.text i x), some (.foreign j) | some (.foreign i), some (.text j x)
  | some (.foreign i), some (.foreign j) =>
    -- the codec of a text message compares only text messages
    cases hc : r.find? i with
    | none => simp [equal, Message.typeId, hc]
    | some c =>
      obtain rfl := find?_text ht hc
      simp [equal, Message.typeId, hc, TextCodec.equal]

/-- A registry of text codecs: its equality is symmetric and transitive; it holds of a message
and itself exactly when the message is absent, a control signal, or a text message of a
registered type id, and never of a message of a type no codec reads; and messages it calls equal
hash alike. -/
theorem equal_laws (cs : List TextCodec) :
    let r := ofText cs
    (∀ a b, r.equal a b = r.equal b a) ∧
    (∀ a b c, r.equal a b = true → r.equal b c = true → r.equal a c = true) ∧
    (∀ a, r.equal a a = true ↔ a = none ∨ (∃ s, a = some (.signal s)) ∨
      ∃ id body, a = some (.text id body) ∧ (r.find? id).isSome) ∧
    (∀ a b, r.equal a b = true → r.hash a = r.hash b) := by
  intro r
  have ht : r.TextOnly := textOnly_ofText cs
  have heq : ∀ {a b}, r.equal a b = true → a = b := fun h => ((equal_eq_true ht).mp h).1
  have hself : ∀ a, r.equal a a = true ↔ a = none ∨ (∃ s, a = some (.signal s)) ∨
      ∃ id body, a = some (.text id body) ∧ (r.find? id).isSome := fun a => by
    simp [equal_eq_true ht]
  refine ⟨fun a b => ?_, fun a b c hab hbc => ?_, hself, fun a b h => by rw [heq h]⟩
  · apply Bool.eq_iff_iff.mpr
    constructor
    · intro h
      obtain rfl := heq h
      exact h
    · intro h
      obtain rfl := heq h
      exact h
  · rw [heq hab]
    exact hbc

end FramedLink.Registry
