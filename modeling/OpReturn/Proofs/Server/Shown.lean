import OpReturn.Proofs.Record.Listed
import OpReturn.Proofs.Record.Placed
import OpReturn.Server.Tools

/-!
# Signatures in what the tools show

The tools that decode show every entry with its record, and every record with the name of its type.
So the signatures can be read off their answers: `identitiesIn` reads those of a script, and
`detachedIn` those of an output of a transaction. What is read off a shown entry is the signature
that the entry was decoded as, and nothing if its record has another type.
-/

namespace OpReturn

/-! ## Reading answers -/

namespace Json

/-- The items of the member with the given key, if it is an array. -/
def itemsAt (key : String) (v : Json) : List Json :=
  match v.member? key with
  | some (.arr items) => items
  | _ => []

/-- The members of a shown record, if it has the given type. -/
def ofType? (type : String) : Json → Option (List (Json.Text × Json))
  | .obj members =>
    match (Json.obj members).member? "type" with
    | some (.str name) => if name = type then some members else none
    | _ => none
  | _ => none

/-- The members of the record of a shown entry, if it has the given type. -/
def recordOf? (type : String) (entry : Json) : Option (List (Json.Text × Json)) :=
  (entry.member? "record").bind (ofType? type)

/-- Is the shown output the one with the given index? -/
def isOutput (o : Nat) (shown : Json) : Bool :=
  match shown.member? "output_index" with
  | some (.int n) => n = o
  | _ => false

end Json

namespace Tool

/-- The identity signature that a shown entry is, with its offset. -/
def identityIn? (entry : Json) : Option Json :=
  (entry.recordOf? "IdentitySignature").map fun members =>
    .obj (("offset", (entry.member? "offset").getD .null) :: members)

/-- The identity signatures among the entries that are shown. -/
def identitiesIn (described : Json) : List Json :=
  (described.itemsAt "entries").filterMap identityIn?

/-- The detached signature that a shown entry is. -/
def detachedIn? (entry : Json) : Option Json :=
  (entry.recordOf? "DetachedSignature").map .obj

/-- The detached signatures among the entries that are shown for an output of a transaction. -/
def detachedIn (o : Nat) (described : Json) : List Json :=
  ((described.itemsAt "outputs").filter (Json.isOutput o)).flatMap fun shown =>
    (shown.itemsAt "entries").filterMap detachedIn?

end Tool

/-! ## Shown entries -/

/-- The identity signature that an entry was decoded as. -/
def DecodedEntry.identity? (d : DecodedEntry) : Option IdentitySignature :=
  match d.record with
  | some (.identity sig) => some sig
  | _ => none

namespace Tool

theorem identityIn?_toJson (d : DecodedEntry) :
    identityIn? d.toJson = d.identity?.map (identityAnswer d.entry) := by
  obtain ⟨entry, found⟩ := d
  cases found with
  | none => rfl
  | some record => cases record <;> rfl

/-- The identity signatures that are shown are those that the entries were decoded as. -/
theorem identitiesIn_eq {described : Json} {decoded : List DecodedEntry}
    (h : described.itemsAt "entries" = decoded.map DecodedEntry.toJson) :
    identitiesIn described =
      (decoded.map fun d => d.identity?.map (identityAnswer d.entry)).filterMap id := by
  rw [identitiesIn, h, List.filterMap_map, List.filterMap_map, Function.id_comp]
  exact List.filterMap_congr fun d _ => identityIn?_toJson d

theorem detachedIn?_toJson (d : DecodedEntry) :
    detachedIn? d.toJson = d.detached?.map DetachedSignature.toJson := by
  obtain ⟨entry, found⟩ := d
  cases found with
  | none => rfl
  | some record => cases record <;> rfl

end Tool

end OpReturn
