import Friendship.Identity.PlainToken
import Friendship.Proofs.Http.Alternatives

/-!
# What a wrong path and a wrong method are told

A path below the base that belongs to no route should be told so, and a route that is asked by
another method should tell that, and nothing else should be told either. `routing_law` says which
requests are answered by that rule: those that come to a route, unless the route turns them down
for something that has no answer of its own.
-/
namespace Friendship

namespace Http

/-! ## Telling replies apart -/

theorem ErrorCode.name_inj {a b : ErrorCode} : a.name = b.name ↔ a = b := by
  cases a <;> cases b <;> decide

theorem Reply.failure_inj {status status' : Nat} {e e' : ApiError} :
    Reply.failure status e = Reply.failure status' e' ↔ status = status' ∧ e = e' := by
  obtain ⟨code, message⟩ := e
  obtain ⟨code', message'⟩ := e'
  simp [Reply.failure, Reply.envelope, ApiError.json, ErrorCode.json, ErrorCode.name_inj]

namespace Reply

/-- There is nothing at a path. -/
def noRoute : Reply := .failure 404 ⟨.noSuchRoute, "no such route"⟩

/-- What is at a path does not go by a method. -/
def notAllowed : Reply := .failure 405 ⟨.noSuchRoute, "method not allowed"⟩

/-- A reply that tells of routes. -/
def TellsOfRoutes (reply : Reply) : Prop :=
  ∃ status message, reply = .failure status ⟨.noSuchRoute, message⟩

theorem tellsOfRoutes_failure_iff {status : Nat} {e : ApiError} :
    (failure status e).TellsOfRoutes ↔ e.code = .noSuchRoute := by
  constructor
  · rintro ⟨status', message, h⟩
    rw [failure_inj] at h
    rw [h.2]
  · intro h
    exact ⟨status, e.message, by rw [← h]⟩

theorem noRoute_ne_notAllowed : noRoute ≠ notAllowed := by
  rw [noRoute, notAllowed, Ne, failure_inj]
  rintro ⟨h, -⟩
  exact absurd h (by decide)

end Reply

theorem code_ofRelation_ne (e : RelationError) :
    (ApiError.ofRelation e).value.code ≠ .noSuchRoute := by
  cases e <;> exact nofun

/-- The service does not tell of routes. -/
theorem not_tellsOfRoutes_replyTo (call : Call) (result : Except RelationError (List Friend)) :
    ¬ (replyTo call result).value.TellsOfRoutes := by
  cases result with
  | error e =>
    have h : (replyTo call (.error e)).value =
        .failure (ApiError.ofRelation e).value.code.status (ApiError.ofRelation e).value := rfl
    rw [h, Reply.tellsOfRoutes_failure_iff]
    exact code_ofRelation_ne e
  | ok friends =>
    rintro ⟨status, message, h⟩
    cases call <;> simp [replyTo, Reply.done, Reply.friends, Reply.failure, Reply.envelope] at h

/-! ## The rule -/

/-- A reply keeps to the rule on paths and methods. -/
structure Lawful (r : Request) (path : List Char) (reply : Reply) : Prop where
  noRoute : reply = .noRoute ↔ ¬ ∃ rt : Route, rt.Spells path
  notAllowed : reply = .notAllowed ↔ ∃ rt : Route, rt.Spells path ∧ rt.method ≠ r.method

/-- A request that a route turns down for something that has no answer of its own: an authorization
that is no text, or, from a caller that is known, a body that is not acceptable. -/
def Unheard (verify : Verifier) (rt : Route) (r : Request) : Prop :=
  r.header "authorization" = .unreadable ∨
    ∃ action user, rt = .act action ∧ (caller verify r).value = .ok user ∧ ¬ r.IsAcceptable

section Rule

variable {verify : Verifier} {rt : Route} {r : Request} {path : List Char}

theorem ask_of_unheard (h : Unheard verify rt r) :
    (ask verify rt r).value = .error .methodNotAllowed := by
  rcases h with hheader | ⟨action, user, rfl, huser, hbody⟩
  · have hcaller : (caller verify r).value = .error .methodNotAllowed := by
      simp only [caller, hheader]
    simp only [ask, hcaller]
  · simp only [ask, huser, readBody_of_not_acceptable hbody]

/-- A request that is heard and turned down is told why, which has nothing to do with routes. -/
theorem ask_of_heard {rejection : Rejection} (h : ¬ Unheard verify rt r)
    (hrejection : (ask verify rt r).value = .error rejection) :
    ¬ rejection.reply.value.TellsOfRoutes := by
  rcases caller_cases verify r with ⟨id, hcaller, -⟩ | ⟨e, hcaller, hcode, -⟩ | ⟨-, hheader⟩
  · have huser : (caller verify r).value = .ok id := by rw [hcaller]
    cases rt with
    | friendList =>
      simp only [ask, huser] at hrejection
      cases hrejection
    | act action =>
      have hbody : r.IsAcceptable :=
        Classical.byContradiction fun hbody => h (Or.inr ⟨action, id, rfl, huser, hbody⟩)
      simp only [ask, huser, readBody_of_acceptable hbody] at hrejection
      cases hother : decodeBody action r.body with
      | ok other =>
        rw [hother] at hrejection
        cases hrejection
      | error other =>
        obtain ⟨e, rfl⟩ := eq_body_of_decodeBody hother
        rw [hother] at hrejection
        cases hrejection
        rw [Rejection.reply, Reply.tellsOfRoutes_failure_iff]
        intro hcode
        cases hcode
  · simp only [ask, hcaller, refuse] at hrejection
    cases hrejection
    rw [Rejection.reply, Reply.tellsOfRoutes_failure_iff]
    exact hcode
  · exact absurd (Or.inl hheader) h

variable {σ : Type} {backend : Backend σ} {policy : Policy} {s : σ}

/-- Either no route hears a request and its method is told not to be allowed, or one does and
nothing is told of routes. -/
theorem answer_cases (verify : Verifier) (backend : Backend σ) (policy : Policy) (s : σ)
    (hpath : r.Below path) :
    ((∀ rt : Route, rt.Spells path → rt.method = r.method → Unheard verify rt r) ∧
      (answer verify backend policy s r).1.value = .notAllowed) ∨
    ((∃ rt : Route, rt.Spells path ∧ rt.method = r.method ∧ ¬ Unheard verify rt r) ∧
      ¬ (answer verify backend policy s r).1.value.TellsOfRoutes) := by
  by_cases hmatch : ∃ rt : Route, rt.Spells path ∧ rt.method = r.method
  · obtain ⟨rt, hrt, hmethod⟩ := hmatch
    have hroute : route verify r = ask verify rt r := route_of_spells hpath hrt hmethod
    by_cases hheard : Unheard verify rt r
    · left
      refine ⟨fun other hother _ => hother.unique hrt ▸ hheard, ?_⟩
      rw [answer_of_error ((congrArg Logged.value hroute).trans (ask_of_unheard hheard))]
      rfl
    · right
      refine ⟨⟨rt, hrt, hmethod, hheard⟩, ?_⟩
      cases hasked : (ask verify rt r).value with
      | error rejection =>
        rw [answer_of_error ((congrArg Logged.value hroute).trans hasked)]
        exact ask_of_heard hheard hasked
      | ok call =>
        rw [answer_of_ok ((congrArg Logged.value hroute).trans hasked)]
        exact not_tellsOfRoutes_replyTo call _
  · left
    have hnone : ∀ rt : Route, rt.Spells path → rt.method ≠ r.method :=
      fun rt hrt hmethod => hmatch ⟨rt, hrt, hmethod⟩
    refine ⟨fun rt hrt hmethod => absurd hmethod (hnone rt hrt), ?_⟩
    rw [answer_of_error (congrArg Logged.value (route_of_unmatched hpath hnone))]
    rfl

theorem answer_ne_noRoute (hpath : r.Below path) :
    (answer verify backend policy s r).1.value ≠ .noRoute := by
  intro h
  rcases answer_cases verify backend policy s hpath with ⟨-, hreply⟩ | ⟨-, hreply⟩
  · exact Reply.noRoute_ne_notAllowed (h.symm.trans hreply)
  · exact hreply ⟨_, _, h⟩

theorem answer_eq_notAllowed_iff (hpath : r.Below path) :
    (answer verify backend policy s r).1.value = .notAllowed ↔
      ∀ rt : Route, rt.Spells path → rt.method = r.method → Unheard verify rt r := by
  rcases answer_cases verify backend policy s hpath with
    ⟨hunheard, hreply⟩ | ⟨⟨rt, hrt, hmethod, hheard⟩, hreply⟩
  · exact ⟨fun _ => hunheard, fun _ => hreply⟩
  · exact ⟨fun h => absurd ⟨_, _, h⟩ hreply, fun h => absurd (h rt hrt hmethod) hheard⟩

/-- A reply that never tells of a wrong path, and tells of a wrong method if no route hears the
request, keeps to the rule if and only if the path is right, and so is the method only if the route
hears the request. -/
theorem lawful_iff {reply : Reply} (hnoRoute : reply ≠ .noRoute)
    (hnotAllowed : reply = .notAllowed ↔
      ∀ rt : Route, rt.Spells path → rt.method = r.method → Unheard verify rt r) :
    Lawful r path reply ↔
      ∃ rt : Route, rt.Spells path ∧ (rt.method = r.method → ¬ Unheard verify rt r) := by
  constructor
  · -- Two routes of one path are one, so one that does not hear the request settles the reply.
    intro hlawful
    obtain ⟨rt, hrt⟩ : ∃ rt : Route, rt.Spells path :=
      Classical.byContradiction fun h => hnoRoute (hlawful.noRoute.2 h)
    refine ⟨rt, hrt, fun hmethod hunheard => ?_⟩
    have hreply := hnotAllowed.2 fun other hother _ => hother.unique hrt ▸ hunheard
    obtain ⟨other, hother, hne⟩ := hlawful.notAllowed.1 hreply
    exact hne (hother.unique hrt ▸ hmethod)
  · rintro ⟨rt, hrt, hheard⟩
    refine ⟨⟨fun h => absurd h hnoRoute, fun h => absurd ⟨rt, hrt⟩ h⟩, fun h => ?_, ?_⟩
    · exact ⟨rt, hrt, fun hmethod => hheard hmethod (hnotAllowed.1 h rt hrt hmethod)⟩
    · rintro ⟨other, hother, hne⟩
      refine hnotAllowed.2 fun x hx hmethod => ?_
      exact absurd (hx.unique hother ▸ hmethod) hne

end Rule

/-- What is told of paths and methods. Trying the routes or finding one, a request below the base is
never told that there is nothing at its path; it is told that its method is not allowed if and only
if the route that its path and method belong to, if there is one, does not hear it. So the rule is
kept if and only if the path is that of a route, and the route hears the request if the method is
right. -/
theorem routing_law {σ : Type} (written : List Rejection → String) (verify : Verifier)
    (backend : Backend σ) (policy : Policy) (s : σ) (r : Request) {path : List Char}
    (hpath : r.Below path) :
    answerByTrial written verify backend policy s r = answer verify backend policy s r ∧
    (answer verify backend policy s r).1.value ≠ .noRoute ∧
    ((answer verify backend policy s r).1.value = .notAllowed ↔
      ∀ rt : Route, rt.Spells path → rt.method = r.method → Unheard verify rt r) ∧
    (Lawful r path (answer verify backend policy s r).1.value ↔
      ∃ rt : Route, rt.Spells path ∧ (rt.method = r.method → ¬ Unheard verify rt r)) := by
  have htrial := answerByTrial_eq_answer written verify backend policy s r
  have hnoRoute : (answer verify backend policy s r).1.value ≠ .noRoute := answer_ne_noRoute hpath
  have hnotAllowed : (answer verify backend policy s r).1.value = .notAllowed ↔
      ∀ rt : Route, rt.Spells path → rt.method = r.method → Unheard verify rt r :=
    answer_eq_notAllowed_iff hpath
  exact ⟨htrial, hnoRoute, hnotAllowed, lawful_iff hnoRoute hnotAllowed⟩

end Http

namespace Sample

/-- Somebody looks for what is not there. -/
def lost : Http.Request where
  method := "GET"
  path := "/api/v1/nothing"

theorem lost_below : lost.Below "nothing".toList := Or.inl rfl

theorem not_spells_nothing (rt : Http.Route) : ¬ rt.Spells "nothing".toList := by
  have hall : ∀ rt ∈ Http.Route.all, rt.hasPath "nothing".toList = false := by decide
  rw [← Http.Route.hasPath_iff, hall rt rt.mem_all]
  exact Bool.false_ne_true

end Sample

namespace Http

/-- What is not there is told to go by another method. -/
theorem routing_law_lost :
    Sample.lost.Below "nothing".toList ∧
      (answer PlainToken.verify (.memory (.ofSecond 0)) {} .empty Sample.lost).1.value =
        .notAllowed :=
  ⟨Sample.lost_below,
    (routing_law (fun _ => "") PlainToken.verify (.memory (.ofSecond 0)) {} .empty Sample.lost
      Sample.lost_below).2.2.1.2 fun rt hrt => absurd hrt (Sample.not_spells_nothing rt)⟩

/-- The rule is not always kept. -/
theorem not_always_lawful :
    ¬ ∀ (verify : Verifier) (policy : Policy) (s : Store) (now : Instant) (r : Request)
      (path : List Char), r.Below path →
      Lawful r path (answer verify (.memory now) policy s r).1.value := by
  intro h
  have hlawful := h PlainToken.verify {} .empty (.ofSecond 0) Sample.lost _ Sample.lost_below
  have hnone : ¬ ∃ rt : Route, rt.Spells "nothing".toList :=
    fun ⟨rt, hrt⟩ => Sample.not_spells_nothing rt hrt
  have hstatus := congrArg Reply.status (hlawful.noRoute.2 hnone)
  exact absurd hstatus (by decide +kernel)

end Http
end Friendship
