import Friendship.Http.Session
import Friendship.Identity.PlainToken
import Friendship.Proofs.Http.Statuses
import Friendship.Proofs.Service.Steps
import Friendship.Proofs.Text.Bytes

/-!
# Who may change what

A request changes rows only on behalf of the account that its token stands for, and only the rows
between that account and the one that its body names: `authority`. What comes to a route without a
token that counts is turned away before anything else is looked at. It should be told that it is not
authorised, and it is, unless its authorization is no text: that is told as a wrong method.
-/
namespace Friendship

namespace Http

/-- A header that is read as a text holds the codes of its characters. -/
theorem HeaderText.eq_map_of_ofBytes {bytes : List UInt8} {s : String}
    (h : ofBytes bytes = .text s) :
    bytes = s.toList.map fun c => UInt8.ofNat c.toNat := by
  unfold ofBytes at h
  split at h
  · cases h
    rw [String.toList_ofList, List.map_map]
    refine (List.map_id bytes).symm.trans (List.map_congr_left fun b _ => ?_)
    rw [Function.comp_apply, Text.toNat_ofNat_byte, UInt8.ofNat_toNat, id]
  · cases h

/-- A request acts for one account towards another: it is posted to the route of an action, its
token stands for the one, and its body names the other. -/
structure Authorised (verify : Verifier) (r : Request) (action : Action)
    (user other : AccountId) : Prop where
  method : r.method = "POST"
  path : ∃ path, r.Below path ∧ (Route.act action).Spells path
  token : ∃ token, r.header "authorization" = .text ("Bearer " ++ token) ∧ verify token = .ok user
  body : r.IsAcceptable ∧ decodeBody action r.body = .ok other

/-- A request has no token that counts, and what is told of that. -/
inductive Unauthenticated (verify : Verifier) (r : Request) : ApiError → Prop
  | missing (h : r.header "authorization" = .missing) :
    Unauthenticated verify r ⟨.invalidToken, "missing bearer token"⟩
  | noBearer {s : String} (h : r.header "authorization" = .text s)
    (hs : ∀ token, s ≠ "Bearer " ++ token) :
    Unauthenticated verify r ⟨.invalidToken, "missing bearer token"⟩
  | invalid {token : String} (h : r.header "authorization" = .text ("Bearer " ++ token))
    (htoken : verify token = .error .tokenInvalid) :
    Unauthenticated verify r ⟨.invalidToken, "token invalid"⟩
  | expired {token : String} (h : r.header "authorization" = .text ("Bearer " ++ token))
    (htoken : verify token = .error .tokenExpired) :
    Unauthenticated verify r ⟨.tokenExpired, "token expired"⟩

/-- A request comes without a token that counts: it has no authorization, or one that does not begin
as it should, or a token that is not accepted. -/
inductive Tokenless (verify : Verifier) (r : Request) : Prop
  | missing (h : r.header? "authorization" = none)
  | noBearer {bytes : List UInt8} (h : r.header? "authorization" = some bytes)
    (hbytes : ¬ "Bearer ".toUTF8.data.toList <+: bytes)
  | refused {token : String} (h : r.header "authorization" = .text ("Bearer " ++ token))
    {fault : AuthError} (htoken : verify token = .error fault)
    (hfault : fault = .tokenInvalid ∨ fault = .tokenExpired)

/-- A request is turned away with a reply, whatever store there is: no call is made for it, and
nothing is told of it. -/
def TurnedAway (verify : Verifier) (policy : Policy) (r : Request) (reply : Reply) : Prop :=
  (∀ call, (route verify r).value ≠ .ok call) ∧
  ∀ {σ : Type} (backend : Backend σ) (s : σ), answer verify backend policy s r = (⟨reply, []⟩, s)

section Turned

variable {verify : Verifier} {policy : Policy} {r : Request} {e : ApiError}

/-- A request is turned away with one reply only. -/
theorem TurnedAway.unique {reply reply' : Reply} (h : TurnedAway verify policy r reply)
    (h' : TurnedAway verify policy r reply') : reply = reply' := by
  have hanswer := (h.2 (.memory (.ofSecond 0)) .empty).symm.trans
    (h'.2 (.memory (.ofSecond 0)) .empty)
  exact congrArg (fun done => done.1.value) hanswer

theorem Unauthenticated.status (h : Unauthenticated verify r e) : e.code.status = 401 := by
  cases h <;> rfl

theorem caller_of_bearer {token : String}
    (h : r.header "authorization" = .text ("Bearer " ++ token)) {fault : AuthError}
    (htoken : verify token = .error fault) : caller verify r = refuse (ApiError.ofAuth fault) := by
  have hafter : textAfter? bearer ("Bearer " ++ token) = some token :=
    textAfter?_eq_some_iff.2 rfl
  simp only [caller, h, hafter, htoken]

theorem Unauthenticated.caller (h : Unauthenticated verify r e) :
    caller verify r = ⟨.error (.api e), []⟩ := by
  cases h with
  | missing h => simp only [Http.caller, h, refuse]
  | @noBearer s h hs =>
    have hnone : textAfter? bearer s = none := by
      cases htoken : textAfter? bearer s with
      | none => rfl
      | some token => exact absurd (textAfter?_eq_some_iff.1 htoken) (hs token)
    simp only [Http.caller, h, hnone, refuse]
  | invalid h htoken => exact caller_of_bearer h htoken
  | expired h htoken => exact caller_of_bearer h htoken

theorem turnedAway_of_route {rejection : Rejection}
    (h : route verify r = ⟨.error rejection, []⟩) (hlog : rejection.reply.log = []) :
    TurnedAway verify policy r rejection.reply.value := by
  refine ⟨fun call hcall => ?_, fun backend s => ?_⟩
  · rw [h] at hcall
    cases hcall
  · rw [answer_of_error (congrArg Logged.value h), h, hlog, List.append_nil]

section Matched

variable {path : List Char} {rt : Route} (hpath : r.Below path) (hrt : rt.Spells path)
  (hmethod : rt.method = r.method)
include hpath hrt hmethod

/-- Without a token that counts nothing of a request is looked at but its route. -/
theorem Unauthenticated.turnedAway (h : Unauthenticated verify r e) :
    TurnedAway verify policy r (.failure 401 e) := by
  have hroute : route verify r = ⟨.error (.api e), []⟩ := by
    rw [route_of_spells hpath hrt hmethod]
    simp only [ask, h.caller]
  rw [← h.status]
  exact turnedAway_of_route hroute rfl

theorem turnedAway_of_unreadable (h : r.header "authorization" = .unreadable) :
    TurnedAway verify policy r .notAllowed := by
  have hroute : route verify r = ⟨.error .methodNotAllowed, []⟩ := by
    rw [route_of_spells hpath hrt hmethod]
    simp only [ask, caller, h]
  exact turnedAway_of_route hroute rfl

end Matched

/-- Who comes without a token that counts is told what is wrong with it, if the authorization is a
text or there is none. -/
theorem Tokenless.exists_unauthenticated (h : Tokenless verify r)
    (hreadable : r.header "authorization" ≠ .unreadable) : ∃ e, Unauthenticated verify r e := by
  cases h with
  | missing h => exact ⟨_, .missing (by simp only [Request.header, h])⟩
  | @noBearer bytes h hbytes =>
    cases htext : r.header "authorization" with
    | unreadable => exact absurd htext hreadable
    | missing => exact ⟨_, .missing htext⟩
    | text s =>
      refine ⟨_, .noBearer htext ?_⟩
      rintro token rfl
      simp only [Request.header, h] at htext
      refine hbytes ⟨token.toList.map fun c => UInt8.ofNat c.toNat, ?_⟩
      rw [HeaderText.eq_map_of_ofBytes htext, String.toList_append, List.map_append]
      rfl
  | @refused token h fault htoken hfault =>
    rcases hfault with rfl | rfl
    · exact ⟨_, .invalid h htoken⟩
    · exact ⟨_, .expired h htoken⟩

/-- An authorization that is no text leads to no call, whatever the route. -/
theorem route_ne_ok_of_unreadable (h : r.header "authorization" = .unreadable) (call : Call) :
    (route verify r).value ≠ .ok call := by
  intro hcall
  have hcaller : ∀ user, (caller verify r).value ≠ .ok user := by
    intro user huser
    obtain ⟨token, htoken, -⟩ := caller_eq_ok_iff.1 huser
    rw [h] at htoken
    cases htoken
  obtain ⟨path, rt, -, -, -, hasks⟩ := route_eq_ok_iff.1 hcall
  cases hasks with
  | act huser hother => exact hcaller _ huser
  | friendList huser => exact hcaller _ huser

end Turned

section Step

variable {verify : Verifier} {r : Request} {now : Instant} {policy : Policy} {s : Store}

theorem authorised_of_route {t : Transition} (h : (route verify r).value = .ok (.transition t)) :
    Authorised verify r t.action t.actor t.other := by
  obtain ⟨path, rt, hpath, hrt, hmethod, hasks⟩ := route_eq_ok_iff.1 h
  cases hasks with
  | act huser hother =>
    exact ⟨hmethod.symm, ⟨path, hpath, hrt⟩, caller_eq_ok_iff.1 huser,
      readBody_eq_ok_iff.1 hother⟩

/-- A request leaves a store in memory as it is, or it asks for a transition that succeeds. -/
theorem answer_memory_cases (verify : Verifier) (now : Instant) (policy : Policy) (s : Store)
    (r : Request) :
    (answer verify (.memory now) policy s r).2 = s ∨
    ∃ t, (route verify r).value = .ok (.transition t) ∧
      (answer verify (.memory now) policy s r).1.value.status = 200 ∧
      (answer verify (.memory now) policy s r).2 =
        (Service.perform (.memory now) policy s t).2 := by
  cases hcall : (route verify r).value with
  | error rejection => exact Or.inl (by rw [answer_of_error hcall])
  | ok call =>
    rw [answer_of_ok hcall]
    cases call with
    | friends owner => exact Or.inl (Service.friends_memory_store now policy s owner)
    | transition t =>
      cases hvalue : (Service.perform (.memory now) policy s t).1.value with
      | error e => exact Or.inl (Service.perform_error_store hvalue)
      | ok =>
        refine Or.inr ⟨t, rfl, ?_, rfl⟩
        simp only [Service.call, hvalue]
        rfl

/-- A request leaves a store in memory as it is, or it is authorised and succeeds, and no rows
change but those between the account that it acts for and the account that it names. -/
theorem answer_memory_rows (verify : Verifier) (now : Instant) (policy : Policy) (s : Store)
    (r : Request) :
    (answer verify (.memory now) policy s r).2 = s ∨
    ∃ action user other, Authorised verify r action user other ∧
      (answer verify (.memory now) policy s r).1.value.status = 200 ∧
      ∀ p, (answer verify (.memory now) policy s r).2.rows.get? p ≠ s.rows.get? p →
        p = ⟨user, other⟩ ∨ p = ⟨other, user⟩ := by
  rcases answer_memory_cases verify now policy s r with hsame | ⟨t, hcall, hstatus, hafter⟩
  · exact Or.inl hsame
  · refine Or.inr ⟨t.action, t.actor, t.other, authorised_of_route hcall, hstatus, fun p h => ?_⟩
    have hbetween : t.isBetween p = true := by
      cases hbetween : t.isBetween p with
      | true => rfl
      | false =>
        rw [hafter] at h
        exact absurd (Service.get?_perform hbetween now policy s) h
    obtain ⟨first, second⟩ := p
    simp only [Transition.isBetween, Bool.or_eq_true, Bool.and_eq_true, decide_eq_true_eq]
      at hbetween
    rcases hbetween with ⟨rfl, rfl⟩ | ⟨rfl, rfl⟩
    · exact Or.inl rfl
    · exact Or.inr rfl

theorem accounts_answer (verify : Verifier) (now : Instant) (policy : Policy) (s : Store)
    (r : Request) : (answer verify (.memory now) policy s r).2.accounts = s.accounts := by
  rcases answer_memory_cases verify now policy s r with hsame | ⟨t, -, -, hafter⟩
  · rw [hsame]
  · rw [hafter, Service.accounts_perform]

/-- What is not answered with success changes nothing, and neither does what is only got. -/
theorem answer_memory_store
    (h : (answer verify (.memory now) policy s r).1.value.status ≠ 200 ∨ r.method = "GET") :
    (answer verify (.memory now) policy s r).2 = s := by
  rcases answer_memory_cases verify now policy s r with hsame | ⟨t, hcall, hstatus, -⟩
  · exact hsame
  · rcases h with h | h
    · exact absurd hstatus h
    · have hpost := (authorised_of_route hcall).method
      rw [h] at hpost
      exact absurd hpost (by decide)

end Step

namespace Visit

/-- The request was authorised to act for one account towards another, and it succeeded. -/
def Acts (v : Visit) (user other : AccountId) : Prop :=
  ∃ action, Authorised v.arrival.verify v.arrival.request action user other ∧
    v.reply.value.status = 200

/-- The visit may have changed the row of a pair. -/
def MayChange (v : Visit) (p : DirectedPair) : Prop :=
  ∃ user other, v.Acts user other ∧ (p = ⟨user, other⟩ ∨ p = ⟨other, user⟩)

/-- A visit changes no account, and no row but the two between the accounts that it acts for and
towards; if it does not succeed, or if something is only got, it changes nothing. -/
structure Legitimate (v : Visit) : Prop where
  accounts : v.after.accounts = v.before.accounts
  rows : v.after = v.before ∨ ∃ user other, v.Acts user other ∧
    ∀ p, v.after.rows.get? p ≠ v.before.rows.get? p → p = ⟨user, other⟩ ∨ p = ⟨other, user⟩
  unchanged : v.reply.value.status ≠ 200 ∨ v.arrival.request.method = "GET" → v.after = v.before

theorem Legitimate.mayChange {v : Visit} {p : DirectedPair} (h : v.Legitimate)
    (hp : v.after.rows.get? p ≠ v.before.rows.get? p) : v.MayChange p := by
  rcases h.rows with hsame | ⟨user, other, hacts, hrows⟩
  · exact absurd (by rw [hsame]) hp
  · exact ⟨user, other, hacts, hrows p hp⟩

end Visit

namespace Session

variable {policy : Policy}

theorem legitimate (policy : Policy) (s : Store) (session : Session) :
    ∀ v ∈ session.visits policy s, v.Legitimate := by
  refine forall_visits (fun a s => ?_) s session
  refine ⟨accounts_answer a.verify a.now policy s a.request, ?_, answer_memory_store⟩
  rcases answer_memory_rows a.verify a.now policy s a.request with
    hsame | ⟨action, user, other, hauthorised, hstatus, hrows⟩
  · exact Or.inl hsame
  · exact Or.inr ⟨user, other, ⟨action, hauthorised, hstatus⟩, hrows⟩

/-- A row that is not as it was before a session was changed by one of its requests. -/
theorem exists_mayChange {s : Store} {session : Session} {p : DirectedPair}
    (h : (session.store policy s).rows.get? p ≠ s.rows.get? p) :
    ∃ v ∈ session.visits policy s, v.MayChange p := by
  induction session generalizing s with
  | nil => exact absurd rfl h
  | cons a rest ih =>
    -- If the first request left the row as it was, a later one changed it.
    by_cases hfirst : (a.serve policy s).2.rows.get? p = s.rows.get? p
    · rw [store_cons, ← hfirst] at h
      obtain ⟨v, hv, hmay⟩ := ih h
      exact ⟨v, List.mem_cons_of_mem _ hv, hmay⟩
    · have hlegitimate := legitimate policy s [a] _ List.mem_cons_self
      exact ⟨_, List.mem_cons_self, hlegitimate.mayChange hfirst⟩

end Session

/-- Who may change what. Over a store in memory each request of a session is legitimate, so a row
that the session changes was changed by a request with a token that stands for one of its accounts,
and with a body that names the other. A request that comes to a route by its method and without a
token that counts is turned away, whatever its body and whatever store there is: it is told what is
wrong with its authorization if and only if that is a text or missing, and else that its method is
not allowed. No request whose authorization is no text leads to a call. -/
theorem authority (policy : Policy) :
    (∀ (s : Store) (session : Session),
      (∀ v ∈ session.visits policy s, v.Legitimate) ∧
      ∀ p, (session.store policy s).rows.get? p ≠ s.rows.get? p →
        ∃ v ∈ session.visits policy s, v.MayChange p) ∧
    (∀ (verify : Verifier) (r : Request) (path : List Char) (rt : Route),
      r.Below path → rt.Spells path → rt.method = r.method →
      (∀ e, Unauthenticated verify r e → TurnedAway verify policy r (.failure 401 e)) ∧
      (Tokenless verify r →
        ((∃ e, TurnedAway verify policy r (.failure 401 e)) ↔
          r.header "authorization" ≠ .unreadable) ∧
        (r.header "authorization" = .unreadable → TurnedAway verify policy r .notAllowed))) ∧
    ∀ (verify : Verifier) (r : Request), r.header "authorization" = .unreadable →
      (∀ call, (route verify r).value ≠ .ok call) ∧
      ∀ {σ : Type} (backend : Backend σ) (s : σ), (answer verify backend policy s r).2 = s := by
  refine ⟨fun s session => ⟨session.legitimate policy s, fun p => Session.exists_mayChange⟩, ?_, ?_⟩
  · intro verify r path rt hpath hrt hmethod
    have haway : ∀ e, Unauthenticated verify r e → TurnedAway verify policy r (.failure 401 e) :=
      fun e he => he.turnedAway hpath hrt hmethod
    have hlost : r.header "authorization" = .unreadable → TurnedAway verify policy r .notAllowed :=
      turnedAway_of_unreadable hpath hrt hmethod
    refine ⟨haway, fun h => ⟨⟨?_, fun hreadable => ?_⟩, hlost⟩⟩
    · rintro ⟨e, he⟩ hunreadable
      have hstatus := (Reply.failure_inj.1 (he.unique (hlost hunreadable))).1
      exact absurd hstatus (by decide)
    · obtain ⟨e, he⟩ := h.exists_unauthenticated hreadable
      exact ⟨e, haway e he⟩
  · intro verify r h
    refine ⟨route_ne_ok_of_unreadable h, fun backend s => ?_⟩
    cases hroute : (route verify r).value with
    | error rejection => rw [answer_of_error hroute]
    | ok call => exact absurd hroute (route_ne_ok_of_unreadable h call)

end Http

namespace Sample

/-- The bytes of a text without special characters. -/
def bytes (s : String) : List UInt8 := s.toList.map fun c => UInt8.ofNat c.toNat

/-- Alice wants to be rid of Bob. -/
def farewell : Http.Arrival where
  now := .ofSecond 3
  verify := PlainToken.verify
  request :=
    { method := "POST"
      path := "/api/v1/remove_friend"
      headers :=
        [("authorization", bytes ("Bearer " ++ PlainToken.ofId alice)),
          ("content-length", bytes "49")]
      body := bytes "\x7b\x22friend\x22:\x2202020202-0202-0202-0202-020202020202\x22\x7d" }

theorem asks_farewell : (Http.route farewell.verify farewell.request).value =
    .ok (.transition ⟨.removeFriend, alice, bob⟩) := by
  have hsome : (Http.route farewell.verify farewell.request).value.toOption =
      some (.transition ⟨.removeFriend, alice, bob⟩) := by decide +kernel
  cases hcall : (Http.route farewell.verify farewell.request).value with
  | error rejection =>
    rw [hcall] at hsome
    cases hsome
  | ok call =>
    rw [hcall] at hsome
    cases hsome
    rfl

/-- Somebody wants a list without telling whose. -/
def nobody : Http.Request where
  method := "GET"
  path := "/api/v1/friend_list"

/-- Somebody comes with an authorization that is no text, the bytes of "Bäsic x". -/
def stranger : Http.Request :=
  { nobody with headers := [("authorization", [66, 195, 164, 115, 105, 99, 32, 120])] }

theorem stranger_tokenless : Http.Tokenless PlainToken.verify stranger := by
  have hheader : stranger.header? "authorization" = some [66, 195, 164, 115, 105, 99, 32, 120] := by
    decide +kernel
  exact .noBearer hheader (by decide)

end Sample

namespace Http

/-- Alice withdraws what she asked Bob. Nobody is told that a token is missing, and a stranger that
another method should be tried. -/
theorem authority_farewell :
    let s := Sample.request.store {} .empty
    let p : DirectedPair := ⟨Sample.alice, Sample.bob⟩
    ((Session.store {} s [Sample.farewell]).rows.get? p ≠ s.rows.get? p ∧
      ∃ v ∈ Session.visits {} s [Sample.farewell], v.MayChange p) ∧
    TurnedAway PlainToken.verify {} Sample.nobody
      (.failure 401 ⟨.invalidToken, "missing bearer token"⟩) ∧
    Tokenless PlainToken.verify Sample.stranger ∧
    TurnedAway PlainToken.verify {} Sample.stranger .notAllowed := by
  intro s p
  have hchanged : (Session.store {} s [Sample.farewell]).rows.get? p ≠ s.rows.get? p := by
    decide +kernel
  have hmissing : Sample.nobody.header "authorization" = .missing := by decide
  have hunreadable : Sample.stranger.header "authorization" = .unreadable := by decide +kernel
  have hpath : Sample.nobody.Below Route.friendList.segment.toList := Or.inl rfl
  have hrt : Route.friendList.Spells Route.friendList.segment.toList := Or.inr rfl
  obtain ⟨hsession, hturned, -⟩ := authority {}
  refine ⟨⟨hchanged, (hsession s [Sample.farewell]).2 p hchanged⟩, ?_,
    Sample.stranger_tokenless, ?_⟩
  · exact (hturned _ Sample.nobody _ _ hpath hrt rfl).1 _ (.missing hmissing)
  · exact ((hturned _ Sample.stranger _ _ hpath hrt rfl).2 Sample.stranger_tokenless).2 hunreadable

/-- Not every request that comes to a route without a token that counts is told so. -/
theorem not_every_stranger_unauthorized :
    ¬ ∀ (verify : Verifier) (policy : Policy) (s : Store) (now : Instant) (r : Request)
      (path : List Char) (rt : Route), r.Below path → rt.Spells path → rt.method = r.method →
      Tokenless verify r → (answer verify (.memory now) policy s r).1.value.status = 401 := by
  intro h
  have hstatus := h PlainToken.verify {} .empty (.ofSecond 0) Sample.stranger
    Route.friendList.segment.toList .friendList (Or.inl rfl) (Or.inr rfl) rfl
    Sample.stranger_tokenless
  exact absurd hstatus (by decide +kernel)

end Http
end Friendship
