import Friendship.Http.Api

/-!
# Which request goes where

A path below the base belongs to a route if it is the segment of the route, with or without a slash
behind it: `Route.Spells`. No path belongs to two routes. `route_eq_ok_iff` says what a request has
to be for the service to be called.
-/
namespace Friendship.Http

namespace Request

/-- What follows a segment without a slash is behind a slash, or there is nothing. -/
theorem afterSegment?_eq_some_iff {segment : String} (hslash : '/' ∉ segment.toList)
    {path rest : List Char} :
    afterSegment? segment path = some rest ↔
      path = segment.toList ++ '/' :: rest ∨ (path = segment.toList ∧ rest = []) := by
  have hplain : ∀ c ∈ segment.toList, (decide (c ≠ '/')) = true := by
    intro c hc
    rw [decide_eq_true_eq]
    rintro rfl
    exact hslash hc
  constructor
  · intro h
    unfold afterSegment? at h
    split at h
    case isFalse => cases h
    case isTrue hsegment =>
      have hpath := List.takeWhile_append_dropWhile (p := fun c => decide (c ≠ '/')) (l := path)
      have hfirst := List.head?_dropWhile_not (fun c => decide (c ≠ '/')) path
      rw [hsegment] at hpath
      cases hrest : path.dropWhile fun c => decide (c ≠ '/') with
      | nil =>
        rw [hrest] at h hpath
        cases h
        exact Or.inr ⟨by simpa using hpath.symm, rfl⟩
      | cons c cs =>
        rw [hrest] at h hpath hfirst
        obtain rfl : c = '/' := by simpa using hfirst
        cases h
        exact Or.inl hpath.symm
  · rintro (rfl | ⟨rfl, rfl⟩)
    · unfold afterSegment?
      rw [List.takeWhile_append_of_pos hplain, List.dropWhile_append_of_pos hplain]
      simp
    · unfold afterSegment?
      rw [← List.append_nil segment.toList, List.takeWhile_append_of_pos hplain,
        List.dropWhile_append_of_pos hplain]
      simp

/-- What the path of a request is below the base of the routes. -/
def Below (r : Request) (path : List Char) : Prop :=
  r.segmentsFrom = "api/v1/".toList ++ path ∨ (r.segmentsFrom = "api/v1".toList ∧ path = [])

theorem afterSegments?_base_iff {r : Request} {path : List Char} :
    afterSegments? Route.base r.segmentsFrom = some path ↔ r.Below path := by
  have hapi : '/' ∉ "api".toList := by decide
  have hv1 : '/' ∉ "v1".toList := by decide
  simp only [Route.base, afterSegments?, Option.bind_eq_some_iff, Option.some.injEq,
    afterSegment?_eq_some_iff hapi]
  constructor
  · rintro ⟨inner, hinner, path, h, rfl⟩
    rw [afterSegment?_eq_some_iff hv1] at h
    rcases hinner with hinner | ⟨-, rfl⟩
    · rcases h with rfl | ⟨rfl, rfl⟩
      · exact Or.inl hinner
      · exact Or.inr ⟨hinner, rfl⟩
    · rcases h with h | ⟨h, -⟩ <;> cases h
  · rintro (h | ⟨h, rfl⟩)
    · exact ⟨'v' :: '1' :: '/' :: path, Or.inl h, path,
        (afterSegment?_eq_some_iff hv1).2 (Or.inl rfl), rfl⟩
    · exact ⟨['v', '1'], Or.inl h, [], (afterSegment?_eq_some_iff hv1).2 (Or.inr ⟨rfl, rfl⟩), rfl⟩

end Request

namespace Route

variable {route other : Route} {method : String} {path : List Char}

theorem mem_all (route : Route) : route ∈ all := by
  cases route with
  | friendList => decide
  | act action => cases action <;> decide

theorem segment_inj : route.segment = other.segment ↔ route = other := by
  have h : ∀ route ∈ all, ∀ other ∈ all, route.segment = other.segment ↔ route = other := by decide
  exact h route route.mem_all other other.mem_all

theorem slash_not_mem_segment (route : Route) : '/' ∉ route.segment.toList := by
  have h : ∀ route ∈ all, '/' ∉ route.segment.toList := by decide
  exact h route route.mem_all

/-- A path below the base is that of a route. -/
def Spells (route : Route) (path : List Char) : Prop :=
  path = route.segment.toList ++ ['/'] ∨ path = route.segment.toList

theorem hasPath_iff : route.hasPath path = true ↔ route.Spells path := by
  rw [hasPath, decide_eq_true_eq, Request.afterSegment?_eq_some_iff route.slash_not_mem_segment]
  simp only [Spells, and_true]

/-- No path belongs to two routes. -/
theorem Spells.unique (h : route.Spells path) (h' : other.Spells path) : route = other := by
  have hsegment : ∀ {route : Route}, route.Spells path →
      path.takeWhile (· ≠ '/') = route.segment.toList := by
    intro route h
    rw [← hasPath_iff, hasPath, decide_eq_true_eq, Request.afterSegment?] at h
    split at h
    · assumption
    · cases h
  rw [← segment_inj, ← String.toList_inj, ← hsegment h, ← hsegment h']

theorem find?_eq_some_iff :
    find? method path = some route ↔ route.method = method ∧ route.Spells path := by
  constructor
  · intro h
    have hroute := List.find?_some h
    simpa only [Bool.and_eq_true, beq_iff_eq, hasPath_iff] using hroute
  · rintro ⟨rfl, hpath⟩
    have hsome : (find? route.method path).isSome = true := by
      rw [find?, List.find?_isSome]
      exact ⟨route, route.mem_all, by simp [hasPath_iff.2 hpath]⟩
    obtain ⟨other, hother⟩ := Option.isSome_iff_exists.1 hsome
    have h := List.find?_some hother
    simp only [Bool.and_eq_true, hasPath_iff] at h
    rw [hother, h.2.unique hpath]

end Route

/-! ## Who asks for what -/

section Reading

variable {verify : Verifier} {r : Request} {action : Action} {id : AccountId}

theorem textAfter?_eq_some_iff {lead s rest : String} :
    textAfter? lead s = some rest ↔ s = lead ++ rest := by
  unfold textAfter?
  constructor
  · intro h
    split at h
    case isFalse => cases h
    case isTrue hlead =>
      obtain ⟨tail, htail⟩ := List.isPrefixOf_iff_prefix.1 hlead
      cases h
      rw [← String.toList_inj, String.toList_append, String.toList_ofList, ← htail,
        ← String.length_toList, List.drop_left]
  · rintro rfl
    rw [String.toList_append, if_pos (List.isPrefixOf_iff_prefix.2 (List.prefix_append _ _)),
      ← String.length_toList, List.drop_left, String.ofList_toList]

theorem caller_eq_ok_iff :
    (caller verify r).value = .ok id ↔
      ∃ token, r.header "authorization" = .text (bearer ++ token) ∧ verify token = .ok id := by
  unfold caller
  cases hheader : r.header "authorization" with
  | unreadable => simp
  | missing => simp [refuse]
  | text s =>
    simp only [HeaderText.text.injEq]
    cases htoken : textAfter? bearer s with
    | none =>
      simp only [refuse, reduceCtorEq, false_iff]
      rintro ⟨token, rfl, -⟩
      rw [textAfter?_eq_some_iff.2 rfl] at htoken
      cases htoken
    | some token =>
      obtain rfl := textAfter?_eq_some_iff.1 htoken
      constructor
      · intro h
        cases hid : verify token with
        | error e => simp [hid, refuse] at h
        | ok other =>
          simp only [hid, Except.ok.injEq] at h
          exact ⟨token, rfl, h ▸ hid⟩
      · rintro ⟨token', htoken', hid⟩
        obtain rfl : token = token' := by
          have := textAfter?_eq_some_iff.2 htoken'
          rw [htoken] at this
          cases this
          rfl
        simp [hid]

/-- A caller is known, or it is told why it is not, or its authorization is no text. -/
theorem caller_cases (verify : Verifier) (r : Request) :
    (∃ id, caller verify r = ⟨.ok id, []⟩ ∧ r.header "authorization" ≠ .unreadable) ∨
    (∃ e : Logged ApiError, caller verify r = refuse e ∧ e.value.code ≠ .noSuchRoute ∧
      r.header "authorization" ≠ .unreadable) ∨
    caller verify r = ⟨.error .methodNotAllowed, []⟩ ∧
      r.header "authorization" = .unreadable := by
  unfold caller
  cases hheader : r.header "authorization" with
  | unreadable => exact Or.inr (Or.inr ⟨rfl, rfl⟩)
  | missing => exact Or.inr (Or.inl ⟨_, rfl, nofun, nofun⟩)
  | text s =>
    simp only
    cases textAfter? bearer s with
    | none => exact Or.inr (Or.inl ⟨_, rfl, nofun, nofun⟩)
    | some token =>
      simp only
      cases verify token with
      | ok id => exact Or.inl ⟨id, rfl, nofun⟩
      | error e =>
        refine Or.inr (Or.inl ⟨_, rfl, ?_, nofun⟩)
        cases e <;> exact nofun

/-- What a body has to be to be looked at: told short enough, and told to be JSON. -/
def Request.IsAcceptable (r : Request) : Prop :=
  (∃ n, r.contentLength? = some n ∧ n ≤ bodyLimit) ∧ r.bodyIsJson = true

/-- A body that names nobody is told what is wrong with it. -/
theorem eq_body_of_decodeBody {body : List UInt8} {rejection : Rejection}
    (h : decodeBody action body = .error rejection) : ∃ e, rejection = .body e := by
  unfold decodeBody at h
  split at h
  · cases h
  · cases h
    exact ⟨_, rfl⟩
  · cases h
    exact ⟨_, rfl⟩

theorem readBody_of_acceptable (h : r.IsAcceptable) :
    readBody action r = decodeBody action r.body := by
  obtain ⟨⟨n, hlength, hn⟩, hjson⟩ := h
  simp only [readBody, hlength, hjson]
  exact if_neg (by simpa using hn)

theorem readBody_of_not_acceptable (h : ¬ r.IsAcceptable) :
    readBody action r = .error .methodNotAllowed := by
  unfold readBody
  cases hlength : r.contentLength? with
  | none => rfl
  | some n =>
    refine if_pos ?_
    by_cases hn : n ≤ bodyLimit
    · right
      cases hjson : r.bodyIsJson with
      | false => rfl
      | true => exact absurd ⟨⟨n, hlength, hn⟩, hjson⟩ h
    · exact Or.inl (Nat.lt_of_not_le hn)

theorem readBody_eq_ok_iff :
    readBody action r = .ok id ↔ r.IsAcceptable ∧ decodeBody action r.body = .ok id := by
  by_cases h : r.IsAcceptable
  · simp [readBody_of_acceptable h, h]
  · simp [readBody_of_not_acceptable h, h]

/-- What a request of a route asks of the service. -/
inductive Asks (verify : Verifier) (r : Request) : Route → Call → Prop
  | act {action : Action} {user other : AccountId} (huser : (caller verify r).value = .ok user)
    (hother : readBody action r = .ok other) :
    Asks verify r (.act action) (.transition ⟨action, user, other⟩)
  | friendList {user : AccountId} (huser : (caller verify r).value = .ok user) :
    Asks verify r .friendList (.friends user)

theorem ask_eq_ok_iff {rt : Route} {call : Call} :
    (ask verify rt r).value = .ok call ↔ Asks verify r rt call := by
  constructor
  · intro h
    unfold ask at h
    cases huser : (caller verify r).value with
    | error e =>
      simp only [huser] at h
      cases h
    | ok user =>
      simp only [huser] at h
      cases rt with
      | friendList =>
        cases h
        exact .friendList huser
      | act action =>
        cases hother : readBody action r with
        | error e =>
          simp only [hother] at h
          cases h
        | ok other =>
          simp only [hother] at h
          cases h
          exact .act huser hother
  · intro h
    cases h with
    | act huser hother => simp only [ask, huser, hother]
    | friendList huser => simp only [ask, huser]

end Reading

section Routing

variable {verify : Verifier} {r : Request} {path : List Char}

theorem route_of_spells {rt : Route} (hpath : r.Below path) (hrt : rt.Spells path)
    (hmethod : rt.method = r.method) : route verify r = ask verify rt r := by
  simp only [route, Request.afterSegments?_base_iff.2 hpath,
    Route.find?_eq_some_iff.2 ⟨hmethod, hrt⟩]

theorem route_of_unmatched (hpath : r.Below path)
    (h : ∀ rt : Route, rt.Spells path → rt.method ≠ r.method) :
    route verify r = ⟨.error .methodNotAllowed, []⟩ := by
  have hnone : Route.find? r.method path = none := by
    cases hfind : Route.find? r.method path with
    | none => rfl
    | some rt =>
      obtain ⟨hmethod, hrt⟩ := Route.find?_eq_some_iff.1 hfind
      exact absurd hmethod (h rt hrt)
  simp only [route, Request.afterSegments?_base_iff.2 hpath, hnone]

/-- The service is called for a request if and only if its path and its method are those of one
route, which then asks for the call. -/
theorem route_eq_ok_iff {call : Call} :
    (route verify r).value = .ok call ↔
      ∃ path rt, r.Below path ∧ rt.Spells path ∧ rt.method = r.method ∧
        Asks verify r rt call := by
  constructor
  · intro h
    cases hbase : Request.afterSegments? Route.base r.segmentsFrom with
    | none =>
      simp only [route, hbase] at h
      cases h
    | some path =>
      have hpath := Request.afterSegments?_base_iff.1 hbase
      by_cases hmatch : ∃ rt : Route, rt.Spells path ∧ rt.method = r.method
      · obtain ⟨rt, hrt, hmethod⟩ := hmatch
        rw [route_of_spells hpath hrt hmethod, ask_eq_ok_iff] at h
        exact ⟨path, rt, hpath, hrt, hmethod, h⟩
      · rw [route_of_unmatched hpath fun rt hrt hmethod => hmatch ⟨rt, hrt, hmethod⟩] at h
        cases h
  · rintro ⟨path, rt, hpath, hrt, hmethod, h⟩
    rw [route_of_spells hpath hrt hmethod, ask_eq_ok_iff]
    exact h

variable {σ : Type} {backend : Backend σ} {policy : Policy} {s : σ}

/-- A request that is turned down leaves the backend alone. -/
theorem answer_of_error {rejection : Rejection} (h : (route verify r).value = .error rejection) :
    answer verify backend policy s r =
      (⟨rejection.reply.value, (route verify r).log ++ rejection.reply.log⟩, s) := by
  simp only [answer, h]

theorem answer_of_ok {call : Call} (h : (route verify r).value = .ok call) :
    answer verify backend policy s r =
      (⟨(replyTo call (Service.call backend policy s call).1.value).value,
        (route verify r).log ++ (Service.call backend policy s call).1.log ++
          (replyTo call (Service.call backend policy s call).1.value).log⟩,
        (Service.call backend policy s call).2) := by
  simp only [answer, h]

end Routing
end Friendship.Http
