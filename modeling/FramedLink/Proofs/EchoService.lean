import FramedLink.Echo

namespace FramedLink.Echo

def isShutdown (env : Envelope) : Bool := env.message == .signal .shutdown

def pingFrom? (env : Envelope) : Option ConnId :=
  match env.message with
  | .text id _ => if id = pingTypeId then some env.id else none
  | _ => none

/-- The connections owed a pong for a run of envelopes: the sender of each ping before the first
`shutdown`, in order. -/
def owedPongs (envs : List Envelope) : List ConnId :=
  (envs.takeWhile fun env => !isShutdown env).filterMap pingFrom?

def leftAfter (envs : List Envelope) : List Envelope :=
  (envs.dropWhile fun env => !isShutdown env).drop 1

/-- The server after the service asks it to send a pong to `id`: the send's server when the send
is carried out, the same server when it is refused. -/
def sendPong (s : Server) (id : ConnId) : Server :=
  match s.send (some pong) [id] with
  | .ok (s', _) => s'
  | .error _ => s

def withItems (s : Server) (items : List Envelope) : Server :=
  { s with inbox := { s.inbox with items } }

theorem sendPong_withInbox (s : Server) (q : Inbox Envelope) (id : ConnId) :
    sendPong { s with inbox := q } id = { sendPong s id with inbox := q } := by
  -- sending reads and writes the connections only, never the inbox
  have hlive : ({ s with inbox := q } : Server).live id = s.live id := rfl
  unfold sendPong Server.send
  cases hf : s.registry.encodeFrame (some pong) with
  | error e => rfl
  | ok frame =>
    cases hl : s.live id with
    | none => simp [hl, hlive]
    | some i =>
      cases hc : s.conns[i]? with
      | none => simp [hl, hlive, hc]
      | some conn => cases hp : conn.channel.pushFrame frame <;> simp [hl, hlive, hc, hp]

@[simp] theorem sendPong_inbox (s : Server) (id : ConnId) : (sendPong s id).inbox = s.inbox := by
  have h := congrArg Server.inbox (sendPong_withInbox s s.inbox id)
  simpa using h

theorem sendPong_withItems (s : Server) (items : List Envelope) (id : ConnId) :
    withItems (sendPong s id) items = sendPong (withItems s items) id := by
  simp only [withItems, sendPong_withInbox, sendPong_inbox]

theorem answer_stop (s : Server) (env : Envelope) : (answer s env).2.2 = isShutdown env := by
  obtain ⟨id, msg⟩ := env
  cases msg with
  | text i body =>
    -- a text message never stops the service, whatever its send gives
    simp only [answer, isShutdown]
    split
    · rfl
    · split
      · rfl
      · rfl
      · split <;> rfl
  | signal sig =>
    by_cases hs : sig = .shutdown
    · subst hs
      rfl
    · have hne : (Message.signal sig == .signal .shutdown) = false := by simpa using hs
      simp only [answer, isShutdown, hne]
      split
      · rfl
      · split
        · rfl
        · simp
  | foreign i => rfl

theorem answer_server (s : Server) (env : Envelope) :
    (answer s env).1 = (match pingFrom? env with
      | some id => sendPong s id
      | none => s) := by
  obtain ⟨id, msg⟩ := env
  cases msg with
  | text i body =>
    by_cases hping : i = pingTypeId
    · subst hping
      cases hsend : s.send (some pong) [id] with
      | error e =>
        simp only [answer, pingFrom?, sendPong, hsend, ne_eq, not_true_eq_false, if_false, if_true]
        -- whether or not the refusal is logged, the server stays as it was
        split <;> rfl
      | ok r =>
        obtain ⟨s', e⟩ := r
        cases e <;> simp [answer, pingFrom?, sendPong, hsend]
    · simp [answer, pingFrom?, hping]
  | signal sig =>
    simp only [answer, pingFrom?]
    split
    · rfl
    · split
      · rfl
      · split <;> rfl
  | foreign i => rfl

theorem serveItems_eq (s : Server) (envs : List Envelope) (h : s.inbox.items = envs) :
    (serveItems s envs).1 = (owedPongs envs).foldl sendPong (withItems s (leftAfter envs)) ∧
    (serveItems s envs).2.2 = if envs.any isShutdown then .requested else .waits := by
  -- induction on the envelopes taken, each taken before it is answered
  induction envs generalizing s with
  | nil =>
    have hs : withItems s [] = s := by rw [← h]; rfl
    simp [serveItems, owedPongs, leftAfter, hs]
  | cons env rest ih =>
    have hanswer := answer_server (withItems s rest) env
    have hstop := answer_stop (withItems s rest) env
    simp only [withItems] at hanswer hstop
    by_cases hsd : isShutdown env = true
    · have hnoping : pingFrom? env = none := by
        obtain ⟨id, msg⟩ := env
        simp only [isShutdown, beq_iff_eq] at hsd
        simp [pingFrom?, hsd]
      simp only [serveItems, hstop, hsd, if_true, hanswer, hnoping]
      simp [owedPongs, leftAfter, hsd, withItems]
    · have hsd' : isShutdown env = false := by simpa using hsd
      cases hp : pingFrom? env with
      | none =>
        obtain ⟨ih1, ih2⟩ := ih { s with inbox := { s.inbox with items := rest } } rfl
        simp only [serveItems, hstop, hsd', Bool.false_eq_true, if_false, hanswer, hp, ih1, ih2]
        simp [owedPongs, leftAfter, hsd', hp, withItems]
      | some id =>
        -- the server after the pong still holds the rest, as the induction needs
        have hitems : (sendPong { s with inbox := { s.inbox with items := rest } } id).inbox.items =
            rest := by
          rw [sendPong_inbox]
        obtain ⟨ih1, ih2⟩ := ih _ hitems
        simp only [serveItems, hstop, hsd', Bool.false_eq_true, if_false, hanswer, hp, ih1, ih2]
        refine ⟨?_, by simp [hsd']⟩
        simp only [owedPongs, leftAfter, List.takeWhile_cons, List.dropWhile_cons, hsd',
          Bool.not_false, if_true, List.filterMap_cons, hp, List.foldl_cons]
        rw [sendPong_withItems]
        rfl

/-- The echo service sends one pong to the sender of each ping before the first `shutdown`, in
order, and nothing else; no failed send stops it, it stops right after `shutdown`, and on a
disposed inbox it fails with `endpointDisposed`. -/
theorem serve_sends_pongs (s : Server) :
    (serve s).1 = (if s.inbox.disposed then s
      else (owedPongs s.inbox.items).foldl sendPong (withItems s (leftAfter s.inbox.items))) ∧
    (serve s).2.2 = (if s.inbox.disposed then .failed .endpointDisposed
      else if s.inbox.items.any isShutdown then .requested else .waits) := by
  by_cases hd : s.inbox.disposed = true
  · simp [serve, hd]
  · simp only [serve, hd, Bool.false_eq_true, if_false]
    exact serveItems_eq s s.inbox.items rfl

end FramedLink.Echo
