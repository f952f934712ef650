import FramedLink.Proofs.Threads.Serving.Reachable

namespace FramedLink.Threads.Serving

theorem AllFit.closing_unique {l l₁ l₂ m₁ m₂ : List Note} {j j' : Nat} {ks ks' : List Nat}
    (h : AllFit l) (h₁ : l = l₁ ++ .closing j ks :: l₂) (h₂ : l = m₁ ++ .closing j' ks' :: m₂) :
    l₁ = m₁ ∧ l₂ = m₂ := by
  have f₁ : closedIn l₁ = false := (h l₁ _ l₂ h₁).1
  have f₂ : closedIn m₁ = false := (h m₁ _ m₂ h₂).1
  rcases split_order h₁ h₂ with ⟨rfl, -, rfl⟩ | ⟨c, hm, -⟩ | ⟨c, hl, -⟩
  · exact ⟨rfl, rfl⟩
  · -- the earlier note of the flag would stand before the later one
    rw [hm, closedIn_of_mem (List.mem_append_right _ List.mem_cons_self)] at f₂
    cases f₂
  · rw [hl, closedIn_of_mem (List.mem_append_right _ List.mem_cons_self)] at f₁
    cases f₁

theorem ConnOk.lostSent_of_won {r : Registry} {l : List Note} {k : Nat} {c : Conn}
    (h : ConnOk r l k c) (hw : wins c.chan.log ≠ []) : lostSentIn k l = true := by
  obtain ⟨hnone, hlost⟩ := won_entered h.inv hw
  have hmem : Message.signal .clientLost ∈ (sentBy k l).map Prod.fst := by
    rw [h.sent, ConnOk.tried_of_free (h.free_iff.mpr hnone)]
    exact List.mem_cons_of_mem _ hlost
  obtain ⟨x, hx, hfst⟩ := List.mem_map.mp hmem
  exact List.any_eq_true.mpr ⟨x, hx, by simp [hfst]⟩

/-- The first close pushes `shutdown`, the only envelope under the nil id, right after setting
the flag, before the `clientLost` of every connection it snapshots; later `add`s are refused and
the inbox closes only after the flag. With no codec reading a control signal, every `joined` comes
before the flag. -/
theorem close_shuts_down (r : Registry) (acts : List Act) :
    let w := (World.fresh r).run acts
    (envelopes w.log).filter (fun e => e.id == ConnId.nil) =
        (if w.closed then [⟨ConnId.nil, .signal .shutdown⟩] else []) ∧
      (∀ l₁ j ks l₂, w.log = l₁ ++ .closing j ks :: l₂ →
        closedIn l₁ = false ∧ (∃ l₃, l₂ = .pushed ⟨ConnId.nil, .signal .shutdown⟩ none :: l₃) ∧
        (∀ k, k ∈ ks ↔ (∃ u, registeredAs k u l₁ = true) ∧ forgotIn k l₁ = false) ∧
        ∀ k ∈ ks, lostSentIn k l₁ = false) ∧
      (r.NoSignal → ∀ l₁ e k l₂, w.log = l₁ ++ .pushed e k :: l₂ →
        e.message = .signal .joined → closedIn l₁ = false) ∧
      (∀ l₁ j u result l₂, w.log = l₁ ++ .add j u true result :: l₂ → u ≠ ConnId.nil →
        closedIn l₁ = true → result = .refused .serverClosed true) ∧
      (∀ l₁ j l₂, w.log = l₁ ++ .disposed j :: l₂ → closedIn l₁ = true) ∧
      (∀ l₁ e k l₂, w.log = l₁ ++ .dropped e k :: l₂ → disposedIn l₁ = true) ∧
      (∀ k c, w.conns[k]? = some c → wins c.chan.log ≠ [] → lostSentIn k w.log = true) := by
  intro w
  have h : Good w := good_run r acts
  have hfits := h.log.fits
  refine ⟨h.closed_eq ▸ h.log.nil_env, fun l₁ j ks l₂ hl => ?_, fun hr l₁ e k l₂ hl hj => ?_,
    fun l₁ j u result l₂ hl => (hfits l₁ _ l₂ hl).1 rfl, fun l₁ j l₂ hl => hfits l₁ _ l₂ hl,
    fun l₁ e k l₂ hl => hfits l₁ _ l₂ hl,
    fun k c hc hw => (h.conns k c hc).lostSent_of_won hw⟩
  · obtain ⟨hcl, hmem, hlost⟩ := hfits l₁ _ l₂ hl
    -- the flag is set, so the note of it that `shutdown` follows is this one
    obtain ⟨m₁, j', ks', m₂, hm⟩ :=
      h.log.shutdown_next (closedIn_of_mem (hl ▸ List.mem_append_right _ List.mem_cons_self))
    obtain ⟨-, rfl⟩ := hfits.closing_unique hl hm
    exact ⟨hcl, ⟨m₂, rfl⟩, hmem, hlost⟩
  · cases k with
    | none =>
      obtain ⟨rfl, -⟩ := hfits l₁ _ l₂ hl
      cases hj
    | some k =>
      -- a connection's `joined` is its first push, made while the server is open
      have hr' : w.registry.NoSignal := (World.registry_run _ acts).symm ▸ hr
      exact ((hfits l₁ _ l₂ hl).2.2.1 ((h.pushed_noSignal hr' hl).1 hj)).2

end FramedLink.Threads.Serving
