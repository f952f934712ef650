import FramedLink.Proofs.Threads.Serving.Reachable

namespace FramedLink.Threads.Serving

/-- Whether the messages pushed under one id are whole blocks, each `joined`, then messages, then
`clientLost`, with only the last block left open; the flag says whether a block is open. -/
def Blocks : Bool → List Message → Bool
  | _, [] => true
  | false, m :: ms => if m = .signal .joined then Blocks true ms else false
  | true, m :: ms =>
    if m = .signal .joined then false
    else if m = .signal .clientLost then Blocks false ms
    else Blocks true ms

/-- A connection registered, dropped by a `disconnect` whose close of the channel wins and hands
the hook `clientLost`, and registered again under the same id between the hook's drop and its
push: the id's envelopes are `joined`, `joined`, `clientLost`, which are not whole blocks, and
after that `clientLost`, the last note, the table holds the id. -/
theorem lost_after_reregistration :
    let u : ConnId := ⟨List.replicate 16 7⟩
    let w := (World.fresh (Registry.ofText [⟨7⟩])).run
      [.add 0 u true, .disconnect 1 u, .run 1, .chan 0 (.run (.caller 1)),
        .chan 0 (.run (.caller 1)), .chan 0 (.closeStream (.caller 1) none),
        .chan 0 (.run (.caller 1)), .hook 0, .add 2 u true, .hook 0]
    ((envelopes w.log).filter (fun e => e.id == u)).map Envelope.message =
        [.signal .joined, .signal .joined, .signal .clientLost] ∧
      Blocks false [.signal .joined, .signal .joined, .signal .clientLost] = false ∧
      (w.log.getLast?.bind Note.envelope?) = some ⟨u, .signal .clientLost⟩ ∧
      w.lookup u = some 1 := by
  decide

namespace Good

variable {w : World}

theorem lookup_after_forgot (h : Good w) {l₁ l₂ : List Note} {k k' : Nat} {u : ConnId}
    (hl : w.log = l₁ ++ .forgot k :: l₂) (hr : registeredAs k u l₁ = true)
    (hlook : w.lookup u = some k') : ∃ l₃ j s l₄, l₂ = l₃ ++ .add j u s (.registered k') :: l₄ := by
  obtain ⟨c', hc', hlisted, hid⟩ := World.lookup_eq_some hlook
  have hok' := h.conns k' c' hc'
  have hnf' : forgotIn k' w.log = false := by
    have := hok'.listed
    rw [hlisted] at this
    simpa using this.symm
  have hfk : forgotIn k l₁ = false := h.log.fits l₁ _ l₂ hl
  obtain ⟨m₁, j', s', m₂, hm⟩ := exists_add_of_registeredAs ((hok'.registered u).mpr hid.symm)
  rcases split_order hl hm with ⟨-, hx, -⟩ | ⟨c, -, hl₂⟩ | ⟨c, hl₁, -⟩
  · cases hx
  · exact ⟨c, j', s', m₂, hl₂⟩
  · -- `k'` was registered while `k` was in the table, or `k` while `k'` was
    exfalso
    obtain ⟨n₁, j'', s'', n₂, hn⟩ := exists_add_of_registeredAs hr
    have hw : w.log = n₁ ++ .add j'' u s'' (.registered k) :: (n₂ ++ .forgot k :: l₂) := by
      rw [hl, hn, List.append_assoc, List.cons_append]
    rcases split_order hn hl₁ with ⟨-, hx, -⟩ | ⟨d, hm₁, -⟩ | ⟨d, hn₁, -⟩
    · cases hx
      rw [forgotIn_of_mem (hl ▸ List.mem_append_right _ List.mem_cons_self)] at hnf'
      cases hnf'
    · have hfm : forgotIn k m₁ = true := (h.log.fits m₁ _ m₂ hm).2 k' rfl k
        (registeredAs_of_mem (hm₁ ▸ List.mem_append_right _ List.mem_cons_self))
      rw [forgotIn_mono ⟨_, hl₁.symm⟩ hfm] at hfk
      cases hfk
    · have hfn : forgotIn k' n₁ = true := (h.log.fits n₁ _ _ hw).2 k rfl k'
        (registeredAs_of_mem (hn₁ ▸ List.mem_append_right _ List.mem_cons_self))
      rw [forgotIn_mono ⟨_, hw.symm⟩ hfn] at hnf'
      cases hnf'

end Good

/-- A connection pushes, under its own id, `joined`, its channel's deliveries and `clientLost`;
ids are registered again only once every earlier holder has left the table; and with no codec
reading a control signal, nothing of a connection follows its `clientLost`. -/
theorem reused_id_blocks (r : Registry) (acts : List Act) :
    let w := (World.fresh r).run acts
    (∀ k c, w.conns[k]? = some c →
      (sentBy k w.log).map Prod.fst <+:
          .signal .joined :: (delivered c.chan.log ++ [.signal .clientLost]) ∧
        delivered c.chan.log <+: (w.registry.readAll (received c.chan.log)).1 ∧
        ∀ l₁ e l₂, w.log = l₁ ++ .pushed e (some k) :: l₂ → e.id = c.id) ∧
      (∀ l₁ j u s k l₂, w.log = l₁ ++ .add j u s (.registered k) :: l₂ →
        ∀ k', registeredAs k' u l₁ = true → forgotIn k' l₁ = true) ∧
      (∀ l₁ e k l₂, w.log = l₁ ++ .pushed e (some k) :: l₂ →
        (e.message = .signal .clientLost → forgotIn k l₁ = true) ∧
        (r.NoSignal → forgotIn k l₁ = true → e.message = .signal .clientLost)) ∧
      (∀ l₁ k u l₂ k', w.log = l₁ ++ .forgot k :: l₂ → registeredAs k u l₁ = true →
        w.lookup u = some k' → ∃ l₃ j s l₄, l₂ = l₃ ++ .add j u s (.registered k') :: l₄) := by
  intro w
  have h : Good w := good_run r acts
  have hfits := h.log.fits
  refine ⟨fun k c hc => ?_, fun l₁ j u s k l₂ hl => (hfits l₁ _ l₂ hl).2 k rfl,
    fun l₁ e k l₂ hl => ⟨(hfits l₁ _ l₂ hl).2.2.2.1, fun hr hf => ?_⟩,
    fun l₁ k u l₂ k' hl hr hlook => h.lookup_after_forgot hl hr hlook⟩
  · have hok := h.conns k c hc
    refine ⟨hok.sent_prefix_delivered, hok.registry ▸ hok.reading.delivered_le,
      fun l₁ e l₂ hl => ?_⟩
    -- the push names the id its connection was registered under, which is the connection's
    have hreg : registeredAs k e.id w.log = true :=
      registeredAs_mono ⟨_, hl.symm⟩ (hfits l₁ _ l₂ hl).2.1
    exact (hok.registered e.id).mp hreg
  · -- once dropped, the connection has pushed `clientLost` or this push is it; nothing follows it
    have hr' : w.registry.NoSignal := (World.registry_run _ acts).symm ▸ hr
    rcases List.mem_append.mp ((hfits l₁ _ l₂ hl).2.2.2.2 hf) with hm | hm
    · exact absurd hm (h.pushed_noSignal hr' hl).2
    · exact (List.mem_singleton.mp hm).symm

end FramedLink.Threads.Serving
