import Gamebook.Api.Response

/-! How requests are taken in.

What a service does with requests rests on a few things that are known of how they are read, whoever
reads them: `Intake.Lawful` names these, and `Call.lawful_read` says that they hold of the reader at hand.
-/

set_option autoImplicit false

namespace Gamebook

namespace Text

@[simp] theorem holdsHalf_ofChars (cs : List Char) : holdsHalf (ofChars cs) = false := by
  unfold holdsHalf ofChars
  rw [symbols_ofSymbols, List.any_map]
  exact List.any_eq_false.2 fun _ _ => Bool.false_ne_true

end Text

namespace Api

def Call.id? : Call → Option String
  | .create => none
  | .view id _ | .choose id _ | .finish id => some id

structure Intake.Lawful (intake : Intake) : Prop where
  /-- Nothing is done for who asks for the head alone. -/
  verb {r : Request} {call : Call} : intake r = .ok call → r.verb ≠ "HEAD"
  /-- What is refused leads nowhere, is not what its route is for, or has a field out of order. -/
  refusal {r : Request} {problem : Problem} : intake r = .error problem →
    problem = .notFound ∨ problem = .methodNotAllowed ∨ problem = .invalid
  /-- An id is made of characters, being part of a path. -/
  id {r : Request} {call : Call} {id : String} : intake r = .ok call → call.id? = some id →
    Text.holdsHalf id = false

-- What a route gives: one of two refusals, or a call about no session but the one that the route names.
theorem Call.ofRoute_cases (r : Request) (query : Target) (route : Route) :
    (∃ problem, ofRoute r query route = .error problem ∧
        (problem = .methodNotAllowed ∨ problem = .invalid)) ∨
      ∃ call, ofRoute r query route = .ok call ∧ r.verb ≠ "HEAD" ∧
        ∀ id, call.id? = some id → route = .session id ∨ route = .choice id := by
  cases route with
  | sessions =>
    by_cases posts : r.verb = "POST"
    · exact .inr ⟨.create, by simp [ofRoute, posts], by simp [posts], by simp [Call.id?]⟩
    · exact .inl ⟨.methodNotAllowed, by simp [ofRoute, posts], .inl rfl⟩
  | session id =>
    by_cases gets : r.verb = "GET"
    · cases asked : since? query with
      | none => exact .inl ⟨.invalid, by simp [ofRoute, gets, asked], .inr rfl⟩
      | some since =>
        exact .inr ⟨.view id since, by simp [ofRoute, gets, asked], by simp [gets], by simp [Call.id?]⟩
    · by_cases deletes : r.verb = "DELETE"
      · exact .inr ⟨.finish id, by simp [ofRoute, deletes], by simp [deletes], by simp [Call.id?]⟩
      · exact .inl ⟨.methodNotAllowed, by simp [ofRoute, gets, deletes], .inl rfl⟩
  | choice id =>
    by_cases posts : r.verb = "POST"
    · cases asked : index? r.body with
      | none => exact .inl ⟨.invalid, by simp [ofRoute, posts, asked], .inr rfl⟩
      | some index =>
        exact .inr ⟨.choose id index, by simp [ofRoute, posts, asked], by simp [posts], by simp [Call.id?]⟩
    · exact .inl ⟨.methodNotAllowed, by simp [ofRoute, posts], .inl rfl⟩

theorem Call.read_eq_ofRoute (r : Request) :
    (∃ query path route, Route.ofPath? path = some route ∧ read r = ofRoute r query route) ∨
      read r = .error .notFound := by
  unfold read
  generalize Address.read r.address = address
  generalize maxRedirects = redirects
  induction redirects generalizing address with
  | zero =>
    unfold readAt
    dsimp only
    split
    · rename_i route led
      exact .inl ⟨_, _, route, led, rfl⟩
    · exact .inr rfl
  | succ redirects ih =>
    unfold readAt
    dsimp only
    split
    · rename_i route led
      exact .inl ⟨_, _, route, led, rfl⟩
    · split
      · rename_i fewer _ same _
        cases same
        exact ih _
      · exact .inr rfl

theorem Route.mem_of_ofSegments? {segments : List String} {route : Route} {id : String}
    (led : Route.ofSegments? segments = some route) (names : route = .session id ∨ route = .choice id) :
    id ∈ segments := by
  unfold Route.ofSegments? at led
  split at led
  · split at led
    · cases led
      rcases names with named | named <;> cases named
    · cases led
  · split at led
    · cases led
    · cases led
      rcases names with named | named <;> cases named
      simp
  · split at led
    · cases led
      rcases names with named | named <;> cases named
      simp
    · cases led
  · cases led

theorem Call.read_cases (r : Request) :
    (∃ problem, read r = .error problem ∧
        (problem = .notFound ∨ problem = .methodNotAllowed ∨ problem = .invalid)) ∨
      ∃ call, read r = .ok call ∧ r.verb ≠ "HEAD" ∧
        ∀ id, call.id? = some id → Text.holdsHalf id = false := by
  rcases read_eq_ofRoute r with ⟨query, path, route, led, same⟩ | lost
  · rw [same]
    rcases ofRoute_cases r query route with ⟨problem, refused, kind⟩ | ⟨call, read, verb, names⟩
    · exact .inl ⟨problem, refused, .inr kind⟩
    · refine .inr ⟨call, read, verb, fun id named => ?_⟩
      obtain ⟨cs, -, rfl⟩ := List.mem_map.1 (Route.mem_of_ofSegments? led (names id named))
      exact Text.holdsHalf_ofChars cs
  · exact .inl ⟨.notFound, lost, .inl rfl⟩

theorem Call.lawful_read : Intake.Lawful Call.read where
  verb {r _} read := by
    rcases Call.read_cases r with ⟨_, refused, -⟩ | ⟨_, -, verb, -⟩
    · rw [refused] at read
      cases read
    · exact verb
  refusal {r _} unread := by
    rcases Call.read_cases r with ⟨_, refused, kind⟩ | ⟨_, read, -⟩
    · cases refused.symm.trans unread
      exact kind
    · rw [read] at unread
      cases unread
  id {r _ _} read named := by
    rcases Call.read_cases r with ⟨_, refused, -⟩ | ⟨_, answered, -, whole⟩
    · rw [refused] at read
      cases read
    · cases answered.symm.trans read
      exact whole _ named

theorem Call.read_of_toOption {r : Request} {call : Call} (asked : (read r).toOption = some call) :
    read r = .ok call := by
  cases done : read r with
  | error problem =>
    rw [done] at asked
    cases asked
  | ok other =>
    rw [done] at asked
    exact congrArg Except.ok (Option.some.inj asked)

end Api

end Gamebook
