import Friendship.Http.Reply
import Friendship.Proofs.Account.Spelling
import Friendship.Proofs.Json.RoundTrip
import Friendship.Proofs.Time.InstantText

/-!
# The text of a friend list

What a friend list response tells is read from its JSON text alone: the text is read as a value
(`document_text`), and each entry from the value of its own (`ofJson?_json`). So nothing of the list
is lost: `friends_read_back`.
-/
namespace Friendship

namespace Json.Value

/-- The value of a member of an object, the first one of its name. -/
def member? (name : String) : Value → Option Value
  | .object members => members.lookup name
  | _ => none

def string? : Value → Option String
  | .string s => some s
  | _ => none

/-- A whole number of 32 bits. -/
def int32? : Value → Option Int32
  | .integer n => if -2 ^ 31 ≤ n ∧ n < 2 ^ 31 then some (Int32.ofInt n) else none
  | _ => none

def list? : Value → Option (List Value)
  | .list elements => some elements
  | _ => none

theorem int32?_toInt (n : Int32) : (integer n.toInt).int32? = some n := by
  have hlow := n.le_toInt
  have hhigh := n.toInt_lt
  rw [int32?, if_pos ⟨hlow, hhigh⟩, Int32.ofInt_toInt]

end Json.Value

namespace Friend

/-- The list entry that a value tells, whatever the order of its members. -/
def ofJson? (v : Json.Value) : Option Friend := do
  let id ← (v.member? "user_id").bind Json.Value.string?
  let username ← (v.member? "username").bind Json.Value.string?
  let avatar ← (v.member? "avatar_id").bind Json.Value.int32?
  let status ← (v.member? "status").bind Json.Value.string?
  let since ← (v.member? "since").bind Json.Value.string?
  pure ⟨← AccountId.read? id, username, avatar, ← Status.ofText? status, ← Instant.read? since⟩

/-- A list entry is read back from its value. -/
theorem ofJson?_json (f : Friend) : ofJson? f.json = some f := by
  have hid : AccountId.read? f.id.text = some f.id := by
    rw [AccountId.read?, AccountId.read, AccountId.text, String.toList_ofList,
      AccountId.readChars_chars]
    rfl
  have hmembers : f.json.member? "user_id" = some (.string f.id.text) ∧
      f.json.member? "username" = some (.string f.username) ∧
      f.json.member? "avatar_id" = some (.integer f.avatar.toInt) ∧
      f.json.member? "status" = some (.string f.status.text) ∧
      f.json.member? "since" = some (.string f.since.text) := ⟨rfl, rfl, rfl, rfl, rfl⟩
  obtain ⟨huser, husername, havatar, hstatus, hsince⟩ := hmembers
  simp only [ofJson?, huser, husername, havatar, hstatus, hsince, Option.bind_eq_bind,
    Option.bind_some, Json.Value.string?, Json.Value.int32?_toInt, hid, Status.ofText?_text,
    Instant.read?_text]
  rfl

theorem plain_json (f : Friend) (depth : Nat) : f.json.Plain (depth + 1) := by
  have hlow := f.avatar.le_toInt
  have hhigh := f.avatar.toInt_lt
  refine .object fun m hm => ?_
  simp only [List.mem_cons, List.not_mem_nil, or_false] at hm
  obtain rfl | rfl | rfl | rfl | rfl := hm
  · exact .string _
  · exact .string _
  · exact .integer (by omega) (by omega)
  · exact .string _
  · exact .string _

end Friend

namespace Http.Reply

theorem plain_body_friends (list : List Friend) :
    (friends list).body.Plain Json.Reader.depthLimit := by
  have hentries : (Json.Value.list (list.map Friend.json)).Plain 125 := by
    refine .list fun v hv => ?_
    obtain ⟨f, -, rfl⟩ := List.mem_map.1 hv
    exact f.plain_json 123
  have hdata : (Json.Value.object [("friends", .list (list.map Friend.json))]).Plain 126 := by
    refine .object fun m hm => ?_
    obtain rfl := List.mem_singleton.1 hm
    exact hentries
  refine .object fun m hm => ?_
  simp only [List.mem_cons, List.not_mem_nil, or_false] at hm
  obtain rfl | rfl | rfl := hm
  · exact .boolean true
  · exact hdata
  · exact .null

/-- A JSON text is read as a success whose data are a friend list. -/
def Lists (text : String) (list : List Friend) : Prop :=
  ∃ v entries, Json.Reader.document Json.Reader.anyValue text.toUTF8.data.toList = .ok v ∧
    v.member? "success" = some (.boolean true) ∧ v.member? "error" = some .null ∧
    ((v.member? "data").bind (Json.Value.member? "friends")).bind Json.Value.list? = some entries ∧
    entries.map Friend.ofJson? = list.map some

/-- A text tells one list at most. -/
theorem Lists.unique {text : String} {list list' : List Friend} (h : Lists text list)
    (h' : Lists text list') : list = list' := by
  obtain ⟨v, entries, hv, -, -, hentries, hlist⟩ := h
  obtain ⟨v', entries', hv', -, -, hentries', hlist'⟩ := h'
  obtain rfl := Except.ok.inj (hv.symm.trans hv')
  obtain rfl := Option.some.inj (hentries.symm.trans hentries')
  exact List.map_injective_iff.2 (Option.some_injective _) (hlist.symm.trans hlist')

/-- The text of a friend list response tells the list, so two lists never have the same text. -/
theorem friends_read_back :
    (∀ list, Lists (friends list).body.text list) ∧
      Function.Injective fun list => (friends list).body.text := by
  have htells : ∀ list, Lists (friends list).body.text list := by
    intro list
    refine ⟨(friends list).body, list.map Friend.json, ?_, rfl, rfl, rfl, ?_⟩
    · exact Json.document_text (plain_body_friends list)
    · rw [List.map_map]
      exact List.map_congr_left fun f _ => f.ofJson?_json
  refine ⟨htells, fun list list' h => ?_⟩
  have htext : (friends list).body.text = (friends list').body.text := h
  exact (htells list).unique (htext ▸ htells list')

end Http.Reply
end Friendship
