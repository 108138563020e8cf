import Friendship.Http.Alternatives
import Friendship.Proofs.Http.Routes

/-!
# Trying the routes and finding one

At most one route looks at more of a request than its method and its path; all others leave nothing
or a method. So trying all routes comes to the same as finding the one: `answerByTrial_eq_answer`.
Some route always leaves a method, so when none answers the preferred rejection is never that
nothing was found.
-/
namespace Friendship.Http

section MapError

variable {α ε ε' : Type} (f : ε → ε')

theorem mapError_ok (a : α) : (Except.ok a).mapError f = .ok a := rfl

theorem mapError_error (e : ε) : (Except.error e : Except ε α).mapError f = .error (f e) := rfl

end MapError

namespace Rejection

/-- What is replied to a rejection next to one for a method. -/
def besideMethod (e : Rejection) : Rejection := if e.isApi || e.isBody then e else .methodNotAllowed

end Rejection

section Settle

variable {written : List Rejection → String} {left before after : List Rejection}

theorem find?_methods {kind : Rejection → Bool} (hkind : kind .methodNotAllowed = false)
    (h : ∀ e ∈ left, e = .methodNotAllowed) : left.find? kind = none := by
  rw [List.find?_eq_none]
  intro e he
  rw [h e he, hkind]
  exact Bool.false_ne_true

theorem any_isMethod_methods (h : ∀ e ∈ left, e = .methodNotAllowed) (hsome : left ≠ []) :
    left.any Rejection.isMethod = true := by
  obtain ⟨e, he⟩ := List.exists_mem_of_ne_nil _ hsome
  rw [List.any_eq_true]
  exact ⟨e, he, by rw [h e he]; rfl⟩

theorem settle_methods (h : ∀ e ∈ left, e = .methodNotAllowed) (hsome : left ≠ []) :
    settle written left = .methodNotAllowed := by
  have hempty : left.isEmpty = false := by simpa using hsome
  unfold settle
  rw [find?_methods rfl h, find?_methods rfl h, hempty, any_isMethod_methods h hsome]
  rfl

/-- Rejections for a method give way to one that has an answer of its own. -/
theorem settle_beside (hbefore : ∀ e ∈ before, e = .methodNotAllowed)
    (hafter : ∀ e ∈ after, e = .methodNotAllowed) (hsome : before ++ after ≠ []) (e : Rejection) :
    settle written (before ++ e :: after) = e.besideMethod := by
  have hfind : ∀ {kind : Rejection → Bool}, kind .methodNotAllowed = false →
      (before ++ e :: after).find? kind = if kind e then some e else none := by
    intro kind hkind
    rw [List.find?_append, find?_methods hkind hbefore, Option.none_or, List.find?_cons,
      find?_methods hkind hafter]
    cases kind e <;> rfl
  have hempty : (before ++ e :: after).isEmpty = false := by simp
  have hmethod : (before ++ e :: after).any Rejection.isMethod = true := by
    have hothers : (before ++ after).any Rejection.isMethod = true := by
      refine any_isMethod_methods (fun x hx => ?_) hsome
      exact (List.mem_append.1 hx).elim (hbefore x) (hafter x)
    rw [List.any_append, Bool.or_eq_true] at hothers
    rw [List.any_append, List.any_cons]
    rcases hothers with h | h <;> simp [h]
  unfold settle Rejection.besideMethod
  rw [hfind rfl, hfind rfl, hempty, hmethod]
  cases e.isApi <;> cases e.isBody <;> rfl

end Settle

namespace Alternative

variable {σ : Type} {verify : Verifier} {backend : Backend σ} {policy : Policy} {s : σ}
  {r : Request} {path : List Char}

/-- What a route leaves that looks at nothing but the method and the path. -/
def passed (r : Request) (rt : Route) : List Rejection :=
  if rt.method ≠ r.method then [.methodNotAllowed] else []

theorem eq_methodNotAllowed_of_passed {routes : List Route} :
    ∀ e ∈ routes.flatMap (passed r), e = .methodNotAllowed := by
  intro e he
  obtain ⟨rt, -, he⟩ := List.mem_flatMap.1 he
  unfold passed at he
  split at he
  · exact List.mem_singleton.1 he
  · cases he

/-- A route whose path or method is another one passes a request on. -/
theorem attempt_unmatched {rt : Route} (h : rt.Spells path → rt.method ≠ r.method) :
    attempt verify backend policy r path s rt = (⟨.error (passed r rt), []⟩, s) := by
  unfold attempt passed
  split
  case isTrue hmethod => rfl
  case isFalse hmethod =>
    have hspells : ¬ rt.Spells path := fun hspells => hmethod (h hspells)
    rw [← Route.hasPath_iff, Route.hasPath, decide_eq_true_eq] at hspells
    split
    · rfl
    · rfl
    · contradiction

theorem attemptAll_unmatched {routes : List Route}
    (h : ∀ rt ∈ routes, rt.Spells path → rt.method ≠ r.method) :
    attemptAll verify backend policy r path s routes =
      (⟨.error (routes.flatMap (passed r)), []⟩, s) := by
  induction routes with
  | nil => rfl
  | cons rt routes ih =>
    have hrest := ih fun rt hrt => h rt (List.mem_cons_of_mem _ hrt)
    simp only [attemptAll, attempt_unmatched (h rt List.mem_cons_self), hrest]
    rfl

/-- Routes before and behind one that looks closer pass the request on. -/
theorem attemptAll_around {before after : List Route} {rt : Route}
    (hbefore : ∀ rt ∈ before, rt.Spells path → rt.method ≠ r.method)
    (hafter : ∀ rt ∈ after, rt.Spells path → rt.method ≠ r.method) :
    attemptAll verify backend policy r path s (before ++ rt :: after) =
      (⟨(attempt verify backend policy r path s rt).1.value.mapError fun left =>
          before.flatMap (passed r) ++ (left ++ after.flatMap (passed r)),
        (attempt verify backend policy r path s rt).1.log⟩,
        (attempt verify backend policy r path s rt).2) := by
  induction before with
  | nil =>
    simp only [List.nil_append, attemptAll]
    cases (attempt verify backend policy r path s rt).1.value with
    | ok reply => rfl
    | error left =>
      rw [attemptAll_unmatched hafter]
      simp [mapError_error]
  | cons first before ih =>
    have hrest := ih fun rt hrt => hbefore rt (List.mem_cons_of_mem _ hrt)
    simp only [List.cons_append, attemptAll, attempt_unmatched (hbefore first List.mem_cons_self),
      hrest]
    cases (attempt verify backend policy r path s rt).1.value with
    | ok reply => rfl
    | error left => simp [mapError_error, List.flatMap_cons]

section Matched

variable {rt : Route} (hpath : rt.Spells path) (hmethod : rt.method = r.method)
include hpath hmethod

theorem attempt_of_error {e : Rejection} (h : (ask verify rt r).value = .error e) :
    attempt verify backend policy r path s rt = (⟨.error [e], (ask verify rt r).log⟩, s) := by
  rw [← Route.hasPath_iff, Route.hasPath, decide_eq_true_eq] at hpath
  unfold attempt
  rw [if_neg (not_not_intro hmethod), hpath]
  simp only [h]

theorem attempt_of_ok {call : Call} (h : (ask verify rt r).value = .ok call) :
    attempt verify backend policy r path s rt =
      (⟨(serve backend policy s call).1.value,
        (ask verify rt r).log ++ (serve backend policy s call).1.log⟩,
        (serve backend policy s call).2) := by
  rw [← Route.hasPath_iff, Route.hasPath, decide_eq_true_eq] at hpath
  unfold attempt
  rw [if_neg (not_not_intro hmethod), hpath]
  simp only [h]

end Matched

theorem serve_of_error {call : Call} {e : RelationError}
    (h : (Service.call backend policy s call).1.value = .error e) :
    serve backend policy s call =
      (⟨.error [.api (ApiError.ofRelation e).value],
        (Service.call backend policy s call).1.log ++ (ApiError.ofRelation e).log⟩,
        (Service.call backend policy s call).2) := by
  simp only [serve, h]

theorem serve_of_ok {call : Call} {friends : List Friend}
    (h : (Service.call backend policy s call).1.value = .ok friends) :
    serve backend policy s call =
      (⟨.ok (replyTo call (.ok friends)).value, (Service.call backend policy s call).1.log⟩,
        (Service.call backend policy s call).2) := by
  cases call <;> simp only [serve, h, replyTo]

/-! ### What one route makes of a request -/

theorem user_of_readable (h : r.header "authorization" ≠ .unreadable) :
    user verify r = caller verify r := by
  unfold user
  split
  · contradiction
  · rfl
  · rfl

/-- Whoever is known is known without a word. -/
theorem caller_eq (verify : Verifier) (r : Request) :
    caller verify r =
      ⟨(user verify r).value.mapError Rejection.besideMethod, (user verify r).log⟩ ∧
    ∀ id, (user verify r).value = .ok id → (user verify r).log = [] := by
  rcases caller_cases verify r with ⟨id, h, hheader⟩ | ⟨e, h, -, hheader⟩ | ⟨h, hheader⟩
  · rw [user_of_readable hheader, h]
    exact ⟨rfl, fun _ _ => rfl⟩
  · rw [user_of_readable hheader, h]
    exact ⟨rfl, fun _ hid => by cases hid⟩
  · have huser : user verify r = ⟨.error (.foreign "InvalidHeader"), []⟩ := by
      simp only [user, hheader]
    rw [huser, h]
    exact ⟨rfl, fun _ _ => rfl⟩

theorem decodeBody_eq (action : Action) (body : List UInt8) :
    decodeBody action body = (decodeBody action body).mapError Rejection.besideMethod := by
  cases h : decodeBody action body with
  | ok id => rfl
  | error rejection =>
    obtain ⟨e, rfl⟩ := eq_body_of_decodeBody h
    rfl

theorem readBody_eq (action : Action) (r : Request) :
    readBody action r = (other action r).mapError Rejection.besideMethod := by
  by_cases h : r.IsAcceptable
  · have hother : other action r = decodeBody action r.body := by
      obtain ⟨⟨n, hlength, hn⟩, hjson⟩ := h
      simp only [other, hlength, hjson, if_neg (Nat.not_lt.2 hn)]
      rfl
    rw [readBody_of_acceptable h, hother]
    exact decodeBody_eq action r.body
  · rw [readBody_of_not_acceptable h]
    unfold other
    cases hlength : r.contentLength? with
    | none => rfl
    | some n =>
      by_cases hn : bodyLimit < n
      · simp only [if_pos hn]
        rfl
      · have hjson : r.bodyIsJson = false := by
          cases hjson : r.bodyIsJson with
          | false => rfl
          | true => exact absurd ⟨⟨n, hlength, Nat.not_lt.1 hn⟩, hjson⟩ h
        simp only [if_neg hn, hjson]
        rfl

theorem ask_eq (verify : Verifier) (rt : Route) (r : Request) :
    Http.ask verify rt r =
      ⟨(ask verify rt r).value.mapError Rejection.besideMethod, (ask verify rt r).log⟩ := by
  obtain ⟨hcaller, hlog⟩ := caller_eq verify r
  unfold Http.ask ask
  rw [hcaller]
  cases huser : (user verify r).value with
  | error e =>
    simp only [mapError_error, huser]
  | ok id =>
    simp only [mapError_ok, huser, hlog id huser]
    cases rt with
    | friendList => rfl
    | act action =>
      simp only [readBody_eq]
      cases other action r <;> rfl

/-! ### All routes -/

theorem exists_other_method (method : String) : ∃ rt : Route, rt.method ≠ method := by
  by_cases h : method = "GET"
  · subst h
    exact ⟨.act .addFriend, by decide⟩
  · exact ⟨.friendList, fun hmethod => h hmethod.symm⟩

theorem flatMap_passed_ne_nil {routes : List Route} {rt : Route} (h : rt ∈ routes)
    (hmethod : rt.method ≠ r.method) : routes.flatMap (passed r) ≠ [] := by
  have hleft : Rejection.methodNotAllowed ∈ passed r rt := by
    rw [passed, if_pos hmethod]
    exact List.mem_singleton_self _
  exact List.ne_nil_of_mem (List.mem_flatMap.2 ⟨rt, h, hleft⟩)

/-- The routes around the one of a path pass on what comes to it, and one of them leaves a
method. -/
theorem exists_around {rt : Route} (hpath : rt.Spells path) (hmethod : rt.method = r.method) :
    ∃ before after, Route.all = before ++ rt :: after ∧
      (∀ x ∈ before, x.Spells path → x.method ≠ r.method) ∧
      (∀ x ∈ after, x.Spells path → x.method ≠ r.method) ∧
      before.flatMap (passed r) ++ after.flatMap (passed r) ≠ [] := by
  obtain ⟨before, after, hall⟩ := List.append_of_mem rt.mem_all
  have hnodup : (before ++ rt :: after).Nodup := by
    rw [← hall]
    decide
  rw [List.nodup_append] at hnodup
  obtain ⟨-, hafter, hbefore⟩ := hnodup
  refine ⟨before, after, hall, fun x hx hspells => ?_, fun x hx hspells => ?_, ?_⟩
  · exact absurd (hspells.unique hpath) (hbefore x hx rt List.mem_cons_self)
  · obtain rfl := hspells.unique hpath
    exact absurd hx (List.nodup_cons.1 hafter).1
  · obtain ⟨x, hx⟩ := exists_other_method r.method
    have hmem : x ∈ before ++ rt :: after := hall ▸ x.mem_all
    rw [← List.flatMap_append]
    refine flatMap_passed_ne_nil (List.mem_append.2 ?_) hx
    rcases List.mem_append.1 hmem with h | h
    · exact Or.inl h
    · rcases List.mem_cons.1 h with rfl | h
      · exact absurd hmethod hx
      · exact Or.inr h

/-- What comes of the one route that looks closer is what the route is found to ask. -/
theorem conclude_attemptAll {rt : Route} (hpath : rt.Spells path) (hmethod : rt.method = r.method)
    (hroute : route verify r = Http.ask verify rt r) (written : List Rejection → String) :
    conclude written (attemptAll verify backend policy r path s Route.all) =
      answer verify backend policy s r := by
  obtain ⟨before, after, hall, hbefore, hafter, hsome⟩ := exists_around hpath hmethod
  rw [ask_eq] at hroute
  rw [hall, attemptAll_around hbefore hafter]
  -- The other routes leave methods, which give way to whatever this one leaves.
  have hsettle : ∀ e, settle written (before.flatMap (passed r) ++ e :: after.flatMap (passed r)) =
      e.besideMethod :=
    settle_beside eq_methodNotAllowed_of_passed eq_methodNotAllowed_of_passed hsome
  cases hasked : (ask verify rt r).value with
  | error e =>
    rw [hasked] at hroute
    rw [answer_of_error (congrArg Logged.value hroute), hroute,
      attempt_of_error hpath hmethod hasked]
    simp only [conclude, mapError_error, List.singleton_append, hsettle]
  | ok call =>
    rw [hasked] at hroute
    rw [answer_of_ok (congrArg Logged.value hroute), hroute, attempt_of_ok hpath hmethod hasked]
    cases hserved : (Service.call backend policy s call).1.value with
    | error e =>
      rw [serve_of_error hserved]
      simp only [conclude, mapError_error, List.singleton_append, hsettle,
        Rejection.besideMethod, Rejection.isApi, Bool.true_or, if_true, replyTo,
        List.append_assoc]
    | ok friends =>
      rw [serve_of_ok hserved]
      have hlog : (replyTo call (.ok friends)).log = [] := by cases call <;> rfl
      simp only [conclude, mapError_ok, hlog, List.append_nil]

end Alternative

/-- Trying all routes comes to the same as finding one. -/
theorem answerByTrial_eq_answer {σ : Type} (written : List Rejection → String) (verify : Verifier)
    (backend : Backend σ) (policy : Policy) (s : σ) (r : Request) :
    answerByTrial written verify backend policy s r = answer verify backend policy s r := by
  unfold answerByTrial
  cases hbase : Request.afterSegments? Route.base r.segmentsFrom with
  | none =>
    simp only [answer, route, hbase]
    rfl
  | some path =>
    have hbelow := Request.afterSegments?_base_iff.1 hbase
    by_cases hmatch : ∃ rt : Route, rt.Spells path ∧ rt.method = r.method
    · obtain ⟨rt, hpath, hmethod⟩ := hmatch
      exact Alternative.conclude_attemptAll hpath hmethod (route_of_spells hbelow hpath hmethod)
        written
    · have hnone : ∀ rt : Route, rt.Spells path → rt.method ≠ r.method :=
        fun rt hpath hmethod => hmatch ⟨rt, hpath, hmethod⟩
      have hroute : route verify r = ⟨.error .methodNotAllowed, []⟩ :=
        route_of_unmatched hbelow hnone
      obtain ⟨rt, hrt⟩ := Alternative.exists_other_method r.method
      have hsettle : settle written (Route.all.flatMap (Alternative.passed r)) =
          .methodNotAllowed :=
        settle_methods Alternative.eq_methodNotAllowed_of_passed
          (Alternative.flatMap_passed_ne_nil rt.mem_all hrt)
      rw [answer_of_error (congrArg Logged.value hroute), hroute]
      simp only [Alternative.attemptAll_unmatched fun rt _ => hnone rt, Alternative.conclude,
        hsettle]

end Friendship.Http
