import Friendship.Database.Repository
import Friendship.Proofs.Store.Plans

/-!
# Messages that name a foreign key

The server names the constraint and the column of a refused row in back-quotes, and besides them the
schema. A mark can only be found where it stands between two back-quotes that follow each other
(`mem_splitOn_of_occursIn`), so a schema is taken for a mark only if it is one.
`ofMessage?_owner` and `ofMessage?_counterparty` say how a message is classified, and
`violations_classified` what becomes of the row.
-/
namespace Friendship.Database

/-- What is searched for is found where it stands in a text. -/
theorem occursIn_iff {part cs : List Char} : occursIn part cs = true ↔ part <:+: cs := by
  induction cs with
  | nil => simp [occursIn]
  | cons c rest ih => simp [occursIn, ih, List.infix_cons_iff]

/-- What stands between two marks, itself without any, is one of the pieces between all marks. -/
theorem mem_splitOn_of_occursIn {mark : Char} {piece part cs : List Char} (hpiece : mark ∉ piece)
    (hpart : mark :: (piece ++ [mark]) <:+: part) (h : occursIn part cs = true) :
    piece ∈ cs.splitOn mark := by
  obtain ⟨before, after, rfl⟩ := hpart.trans (occursIn_iff.1 h)
  have hsplit : before ++ mark :: (piece ++ [mark]) ++ after =
      before ++ mark :: (piece ++ mark :: after) := by simp
  rw [hsplit, List.splitOn_append_cons_self, List.splitOn_append_cons_self,
    List.splitOn_eq_singleton hpiece]
  simp

namespace ForeignKey

/-- What the names of a constraint and of its column have in common. -/
def role : ForeignKey → String
  | owner => "owner"
  | counterparty => "counterparty"
  | unknown => ""

/-- The end of a row that a key is about. -/
def end? (row : DirectedPair) : ForeignKey → Option AccountId
  | owner => some row.first
  | counterparty => some row.second
  | unknown => none

/-- Whether a row goes against a key: the end that the key is about has no account. -/
def Trips (s : Store) (row : DirectedPair) (key : ForeignKey) : Prop :=
  ∃ id, key.end? row = some id ∧ s.accounts.get? id = none

theorem mem_of_end? {row : DirectedPair} {key : ForeignKey} {id : AccountId}
    (h : key.end? row = some id) : id ∈ [row.first, row.second] := by
  cases key <;> simp_all [end?]

/-- What comes before the schema in a message, up to its back-quote. -/
def refusalLead : String :=
  "Cannot add or update a child row: a foreign key constraint fails ("

/-- What comes behind the schema in a message, from its back-quote on. -/
def refusalRest (key : ForeignKey) : String :=
  ".`relationship`, CONSTRAINT `fk_relationship_" ++ key.role ++ "` FOREIGN KEY (`" ++
    key.role ++ "_id`) REFERENCES `account` (`user_id`))"

/-- The message in which the server refuses a row that goes against a key. -/
def refusalText (schema : String) (key : ForeignKey) : String :=
  refusalLead ++ "`" ++ schema ++ "`" ++ key.refusalRest

example : refusalText "amity" counterparty =
    "Cannot add or update a child row: a foreign key constraint fails (`amity`.`relationship`, " ++
    "CONSTRAINT `fk_relationship_counterparty` FOREIGN KEY (`counterparty_id`) " ++
    "REFERENCES `account` (`user_id`))" := by
  decide +kernel

variable {schema : String} {key : ForeignKey}

/-- Back-quotes cut a message into the schema and what is the same for every schema. -/
theorem splitOn_refusalText (hschema : '`' ∉ schema.toList) :
    (refusalText schema key).toList.splitOn '`' =
      refusalLead.toList :: schema.toList :: key.refusalRest.toList.splitOn '`' := by
  have hlead : '`' ∉ refusalLead.toList := by decide +kernel
  have htext : (refusalText schema key).toList =
      refusalLead.toList ++ '`' :: (schema.toList ++ '`' :: key.refusalRest.toList) := by
    simp [refusalText, String.toList_append]
  rw [htext, List.splitOn_append_cons_self, List.splitOn_append_cons_self,
    List.splitOn_eq_singleton hlead, List.splitOn_eq_singleton hschema]
  rfl

/-- A name that is found in back-quotes, and is not always there, is the schema. -/
theorem eq_schema_of_occursIn {name : String} {part : List Char} (hschema : '`' ∉ schema.toList)
    (hname : '`' ∉ name.toList) (hpart : '`' :: (name.toList ++ ['`']) <:+: part)
    (hfixed : name.toList ∉ refusalLead.toList :: key.refusalRest.toList.splitOn '`')
    (h : occursIn part (refusalText schema key).toList = true) : schema = name := by
  have hmem := mem_splitOn_of_occursIn hname hpart h
  rw [splitOn_refusalText hschema] at hmem
  simp only [List.mem_cons, not_or] at hmem hfixed
  obtain hlead | hschema | hrest := hmem
  · exact absurd hlead hfixed.1
  · exact (String.toList_injective hschema).symm
  · exact absurd hrest hfixed.2

/-- A mark behind the schema is found whatever the schema is. -/
theorem marked_refusalText {marks : List String} (schema : String)
    (h : marked marks key.refusalRest = true) : marked marks (refusalText schema key) = true := by
  obtain ⟨mark, hmark, hoccurs⟩ := List.any_eq_true.1 h
  have hrest : key.refusalRest.toList <:+: (refusalText schema key).toList := by
    rw [refusalText, String.toList_append]
    exact (List.suffix_append _ _).isInfix
  exact List.any_eq_true.2 ⟨mark, hmark, occursIn_iff.2 ((occursIn_iff.1 hoccurs).trans hrest)⟩

theorem marked_owner (schema : String) : marked ownerMarks (refusalText schema owner) = true :=
  marked_refusalText schema (by decide +kernel)

/-- A message about the counterparty has an owner mark only where the schema is named like the
owner's constraint: a schema named like the owner's column does not stand in brackets. -/
theorem marked_counterparty_iff (hschema : '`' ∉ schema.toList) :
    marked ownerMarks (refusalText schema counterparty) = true ↔
      schema = "fk_relationship_owner" := by
  constructor
  · intro h
    obtain ⟨mark, hmark, hoccurs⟩ := List.any_eq_true.1 h
    simp only [ownerMarks, List.mem_cons, List.not_mem_nil, or_false] at hmark
    rcases hmark with rfl | rfl
    · exact eq_schema_of_occursIn hschema (by decide) (List.infix_refl _) (by decide +kernel)
        hoccurs
    · have hpart : '`' :: ("owner_id".toList ++ ['`']) <:+: "(`owner_id`)".toList :=
        ⟨['('], [')'], by decide⟩
      have hcolumn : schema = "owner_id" :=
        eq_schema_of_occursIn hschema (by decide) hpart (by decide +kernel) hoccurs
      subst hcolumn
      revert hoccurs
      decide +kernel
  · rintro rfl
    decide +kernel

variable {number : UInt16}

theorem ofMessage?_of_not_mem (hnumber : number ∉ numbers) (message : String) :
    ofMessage? number message = none :=
  if_pos hnumber

/-- The message about the owner is classified as such in every schema. -/
theorem ofMessage?_owner (hnumber : number ∈ numbers) (schema : String) :
    ofMessage? number (refusalText schema owner) = some owner := by
  simp [ofMessage?, hnumber, marked_owner]

/-- The message about the counterparty is classified as such outside one schema. -/
theorem ofMessage?_counterparty (hnumber : number ∈ numbers) (hschema : '`' ∉ schema.toList) :
    ofMessage? number (refusalText schema counterparty) =
      some (if schema = "fk_relationship_owner" then owner else counterparty) := by
  have hcounterparty : marked counterpartyMarks (refusalText schema counterparty) = true :=
    marked_refusalText schema (by decide +kernel)
  by_cases howner : schema = "fk_relationship_owner"
  · have hmarked := (marked_counterparty_iff hschema).2 howner
    rw [ofMessage?, if_neg (not_not_intro hnumber), if_pos hmarked, if_pos howner]
  · have hunmarked := mt (marked_counterparty_iff hschema).1 howner
    rw [ofMessage?, if_neg (not_not_intro hnumber), if_neg hunmarked, if_pos hcounterparty,
      if_neg howner]

/-- Outside that schema the server's message about a key is classified as one about that key. -/
theorem ofMessage?_refusalText (hnumber : number ∈ numbers) (hschema : '`' ∉ schema.toList)
    (howner : schema ≠ "fk_relationship_owner") (hkey : key ≠ unknown) :
    ofMessage? number (refusalText schema key) = some key := by
  cases key with
  | owner => exact ofMessage?_owner hnumber schema
  | counterparty => rw [ofMessage?_counterparty hnumber hschema, if_neg howner]
  | unknown => contradiction

/-- A row is refused for the end that the key is about. -/
theorem putError_of_end? {row : DirectedPair} {e : QueryError} {id : AccountId}
    (he : e.foreignKey? = some key) (hid : key.end? row = some id) :
    putError row e = .userNotFound id := by
  cases key with
  | owner => simp_all [putError, end?]
  | counterparty => simp_all [putError, end?]
  | unknown => simp [end?] at hid

end ForeignKey

/-- Messages are classified by the constraint that they name, whatever the schema, but for a message
about the counterparty in a schema named like the owner's constraint; an error of another number is
never about a key. A row that trips a key is refused for its end that has no account. -/
theorem violations_classified :
    (∀ number ∈ ForeignKey.numbers, ∀ schema : String,
      ForeignKey.ofMessage? number (ForeignKey.refusalText schema .owner) = some .owner) ∧
    (∀ number ∈ ForeignKey.numbers, ∀ schema : String, '`' ∉ schema.toList →
      ForeignKey.ofMessage? number (ForeignKey.refusalText schema .counterparty) =
        some (if schema = "fk_relationship_owner" then .owner else .counterparty)) ∧
    (∀ number ∉ ForeignKey.numbers, ∀ message : String,
      ForeignKey.ofMessage? number message = none) ∧
    ∀ number ∈ ForeignKey.numbers, ∀ schema : String, '`' ∉ schema.toList →
      schema ≠ "fk_relationship_owner" →
        ∀ (s : Store) (row : DirectedPair) (key : ForeignKey), key.Trips s row →
          ∃ id ∈ [row.first, row.second], s.accounts.get? id = none ∧
            ∀ (σ : Type) (server : Server σ) (before : σ) (status : Status)
              (state? : Option String),
              (server.answer before (.put row status)).1 =
                .error (.server ⟨number, state?, ForeignKey.refusalText schema key⟩) →
              ((write (.put row status)).run.run server before).result =
                .error (.userNotFound id) := by
  refine ⟨fun number => ForeignKey.ofMessage?_owner,
    fun number hnumber schema => ForeignKey.ofMessage?_counterparty hnumber,
    fun number => ForeignKey.ofMessage?_of_not_mem, ?_⟩
  intro number hnumber schema hschema howner s row key ⟨id, hid, hmissing⟩
  have hkey : key ≠ .unknown := by
    rintro rfl
    simp [ForeignKey.end?] at hid
  refine ⟨id, ForeignKey.mem_of_end? hid, hmissing, ?_⟩
  intro σ server before status state? hanswer
  have hresult : ((write (.put row status)).run.run server before).result =
      (server.answer before (.put row status)).1.mapError (putError row) := rfl
  rw [hresult, hanswer]
  exact congrArg Except.error (ForeignKey.putError_of_end?
    (ForeignKey.ofMessage?_refusalText hnumber hschema howner hkey) hid)

/-- Alice alone has an account: a row of hers with Bob is refused for Bob. -/
theorem violations_classified_alice :
    let tables : Store := { accounts := Table.empty.insert Sample.alice ⟨"alice", 1, false⟩ }
    let refusal : QueryError :=
      .server ⟨1452, some "23000", ForeignKey.refusalText "amity" .counterparty⟩
    let server : Server Unit := ⟨fun _ _ => (.error refusal, ())⟩
    ForeignKey.Trips tables ⟨Sample.alice, Sample.bob⟩ .counterparty ∧
      ((write (.put ⟨Sample.alice, Sample.bob⟩ .pending)).run.run server ()).result =
        .error (.userNotFound Sample.bob) := by
  intro tables refusal server
  have htrips : ForeignKey.Trips tables ⟨Sample.alice, Sample.bob⟩ .counterparty :=
    ⟨Sample.bob, rfl, by decide⟩
  obtain ⟨id, hid, hmissing, hresult⟩ := violations_classified.2.2.2 1452 (by decide) "amity"
    (by decide) (by decide) tables ⟨Sample.alice, Sample.bob⟩ .counterparty htrips
  have hthere : tables.accounts.get? Sample.alice ≠ none := by decide
  obtain rfl : id = Sample.bob := by
    simp only [List.mem_cons, List.not_mem_nil, or_false] at hid
    exact hid.resolve_left fun h => hthere (h ▸ hmissing)
  exact ⟨htrips, hresult Unit server () .pending (some "23000") rfl⟩

end Friendship.Database
