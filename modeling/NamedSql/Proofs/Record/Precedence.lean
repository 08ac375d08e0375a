import NamedSql.Proofs.Preliminaries
import NamedSql.Record.FieldMap

/-!
# Which field answers a name

A field map is built in three passes over the fields, and a name that is in the map already stays as
it is. The passes add the tags, then the mapped names of the fields without a tag, then the declared
names of all fields. So fields lay claims to names, one claim after the other, and of several claims
to a name the first one counts (`get?_ofFields`).

A field with a tag takes part in the first pass and in the last. Its mapped name is never put into
the map. But the mapped name is often the declared name as well, or the tag, and to these the field
does answer (`tagged_field_answers_mapped_name`).

**Theorem (`field_precedence`).** A name is answered by the first field with that tag, failing that
by the first field without a tag whose mapped name it is, failing that by a field that is declared
with it, and otherwise by none.
-/

namespace NamedSql.FieldMap

/-- Of several claims to a name the first one counts. -/
theorem get?_ofFields (mapper : Text → Text) (fields : List TaggedField) (name : Text) :
    (ofFields mapper fields).get? name = (claims mapper fields).lookup name := by
  suffices hfold : ∀ es m, (List.foldl (fun m e => putAbsent e.1 e.2 m) m es).lookup name =
      (m ++ es).lookup name from hfold (claims mapper fields) []
  intro es
  induction es with
  | nil => simp
  | cons e es ih =>
    intro m
    rw [List.foldl_cons, ih]
    unfold putAbsent
    split
    · next hsome =>
      rw [List.lookup_append, List.lookup_append, List.lookup_cons]
      by_cases hname : name = e.1
      · obtain ⟨v, hv⟩ := Option.isSome_iff_exists.mp hsome
        rw [hname, hv]
        rfl
      · rw [beq_false_of_ne hname]
    · rw [List.append_assoc, List.singleton_append]

/-! ## The field that answers -/

/-- The field that answers a name: the first one with that tag, failing that the first one without a
tag whose mapped name it is, failing that the first one that is declared with it. -/
def answering? (mapper : Text → Text) (fields : List TaggedField) (name : Text) :
    Option TaggedField :=
  fields.find? (·.tag? = some name) <|>
    fields.find? (fun f => f.tag? = none ∧ mapper f.name = name) <|>
    fields.find? (·.name = name)

variable {mapper : Text → Text} {fields : List TaggedField} {name : Text} {f : TaggedField}

theorem get?_ofFields_eq_answering? (mapper : Text → Text) (fields : List TaggedField)
    (name : Text) :
    (ofFields mapper fields).get? name = (answering? mapper fields name).map (·.name) := by
  have huntagged : (fields.filter (·.tag?.isNone)).find? (mapper ·.name = name) =
      fields.find? (fun f => f.tag? = none ∧ mapper f.name = name) := by
    rw [List.find?_filter]
    simp
  rw [get?_ofFields, claims, List.lookup_append, List.lookup_append, lookup_filterMap, lookup_map,
    lookup_map, huntagged]
  unfold answering?
  simp only [Option.orElse_eq_orElse, Option.orElse_eq_or, Option.map_or, Option.or_assoc]

/-- Of attributes without tags, the first one whose mapped name it is answers a name, and failing
that the one that has this name. -/
theorem get?_ofFields_untagged (mapper : Text → Text) (names : List Text) (name : Text) :
    (ofFields mapper (names.map (⟨·, none⟩))).get? name =
      (names.find? (mapper · = name) <|> names.find? (· = name)) := by
  have hnone (n : Text) : (⟨n, none⟩ : TaggedField).tag? = none := rfl
  have htagged : names.find? (fun _ => false) = none := List.find?_eq_none.mpr (by simp)
  rw [get?_ofFields_eq_answering?]
  unfold answering?
  simp [List.find?_map, Function.comp_def, hnone, htagged, Option.map_or]

theorem mem_of_answering? (h : answering? mapper fields name = some f) : f ∈ fields := by
  simp only [answering?, Option.orElse_eq_orElse, Option.orElse_eq_or, Option.or_eq_some_iff] at h
  obtain h | ⟨-, h | ⟨-, h⟩⟩ := h
  · exact List.mem_of_find?_eq_some h
  · exact List.mem_of_find?_eq_some h
  · exact List.mem_of_find?_eq_some h

/-- A field map of fields gives none but their names. -/
theorem mem_of_get?_ofFields {a : Text} (h : (ofFields mapper fields).get? name = some a) :
    a ∈ fields.map (·.name) := by
  rw [get?_ofFields_eq_answering?, Option.map_eq_some_iff] at h
  obtain ⟨f, hf, rfl⟩ := h
  exact List.mem_map_of_mem (mem_of_answering? hf)

/-- A field answers its tag, its mapped name if it has no tag, and its declared name. -/
theorem name_of_answering? (h : answering? mapper fields name = some f) :
    f.tag? = some name ∨ f.tag? = none ∧ mapper f.name = name ∨ f.name = name := by
  simp only [answering?, Option.orElse_eq_orElse, Option.orElse_eq_or, Option.or_eq_some_iff] at h
  obtain h | ⟨-, h | ⟨-, h⟩⟩ := h
  · exact .inl (by simpa using List.find?_some h)
  · exact .inr (.inl (by simpa using List.find?_some h))
  · exact .inr (.inr (by simpa using List.find?_some h))

theorem isSome_answering?_of_mem (h : f ∈ fields) :
    (answering? mapper fields f.name).isSome := by
  have hdeclared : (fields.find? (·.name = f.name)).isSome := by
    simp only [List.find?_isSome, decide_eq_true_eq]
    exact ⟨f, h, rfl⟩
  simp only [answering?, Option.orElse_eq_orElse, Option.orElse_eq_or, Option.isSome_or, hdeclared,
    Bool.or_true]

/-- The mapped name of a field with a tag is never asked for. -/
theorem ofFields_congr {mapper' : Text → Text}
    (h : ∀ f ∈ fields, f.tag? = none → mapper' f.name = mapper f.name) :
    ofFields mapper' fields = ofFields mapper fields := by
  have huntagged : (fields.filter (·.tag?.isNone)).map (fun f => (mapper' f.name, f.name)) =
      (fields.filter (·.tag?.isNone)).map (fun f => (mapper f.name, f.name)) := by
    refine List.map_congr_left fun f hf => ?_
    obtain ⟨hmem, hnone⟩ := List.mem_filter.mp hf
    rw [h f hmem (Option.isNone_iff_eq_none.mp hnone)]
  unfold ofFields claims
  rw [huntagged]

theorem map_name_find? (fields : List TaggedField) (name : Text) :
    (fields.find? (·.name = name)).map (·.name) =
      if name ∈ fields.map (·.name) then some name else none := by
  cases hfind : fields.find? (·.name = name) with
  | none =>
    rw [if_neg]
    · rfl
    · intro hmem
      obtain ⟨f, hf, rfl⟩ := List.mem_map.mp hmem
      simpa using List.find?_eq_none.mp hfind f hf
  | some f =>
    have hname : f.name = name := by simpa using List.find?_some hfind
    rw [if_pos (hname ▸ List.mem_map_of_mem (List.mem_of_find?_eq_some hfind)), ← hname]
    rfl

/-- **Which attribute answers a name.** It is that of the first field with this tag; failing that,
of the first field without a tag whose mapped name it is; failing that, the name itself if a field
is declared with it. This is the attribute of the field that answers. A field with a tag answers
this tag and its declared name only, and its mapped name has no say in what the map is. Every
declared name is answered by a field. -/
theorem field_precedence (mapper : Text → Text) (fields : List TaggedField) :
    (∀ name, (ofFields mapper fields).get? name =
      ((fields.find? (·.tag? = some name)).map (·.name) <|>
        (fields.find? fun f => f.tag? = none ∧ mapper f.name = name).map (·.name) <|>
        if name ∈ fields.map (·.name) then some name else none)) ∧
    (∀ name f, answering? mapper fields name = some f →
      f ∈ fields ∧ (ofFields mapper fields).get? name = some f.name ∧
        ∀ tag, f.tag? = some tag → name = tag ∨ name = f.name) ∧
    (∀ mapper', (∀ f ∈ fields, f.tag? = none → mapper' f.name = mapper f.name) →
      ofFields mapper' fields = ofFields mapper fields) ∧
    ∀ f ∈ fields, ∃ g ∈ fields, answering? mapper fields f.name = some g := by
  refine ⟨fun name => ?_, fun name f h => ⟨mem_of_answering? h, ?_, fun tag htag => ?_⟩,
    fun mapper' => ofFields_congr, fun f hf => ?_⟩
  · rw [get?_ofFields_eq_answering?, ← map_name_find?]
    simp only [answering?, Option.orElse_eq_orElse, Option.orElse_eq_or, Option.map_or]
  · rw [get?_ofFields_eq_answering?, h, Option.map_some]
  · obtain hname | ⟨hnone, -⟩ | hname := name_of_answering? h
    · exact .inl (Option.some.inj (hname.symm.trans htag))
    · simp [htag] at hnone
    · exact .inr hname.symm
  · have hsome : (answering? mapper fields f.name).isSome := isSome_answering?_of_mem hf
    obtain ⟨g, hg⟩ := Option.isSome_iff_exists.mp hsome
    exact ⟨g, mem_of_answering? hg, hg⟩

/-- A mapper sends all names to one, which is also the tag of the second field. Where it sends the
name of that field does not matter. -/
theorem field_precedence_collision :
    let mapper : Text → Text := fun _ => ['u']
    let mapper' : Text → Text := fun name => if name = ['b'] then ['c'] else ['u']
    let fields : List TaggedField := [⟨['a'], none⟩, ⟨['b'], some ['u']⟩]
    (ofFields mapper fields).get? ['u'] = some ['b'] ∧ (['u'] = ['u'] ∨ ['u'] = ['b']) ∧
      ofFields mapper' fields = ofFields mapper fields ∧
      ∃ g ∈ fields, answering? mapper fields ['b'] = some g := by
  intro mapper mapper' fields
  obtain ⟨-, hanswering, hmapper, hdeclared⟩ := field_precedence mapper fields
  have hfield : answering? mapper fields ['u'] = some ⟨['b'], some ['u']⟩ := rfl
  obtain ⟨hmem, hget, htag⟩ := hanswering _ _ hfield
  have huntagged : ∀ f ∈ fields, f.tag? = none → mapper' f.name = mapper f.name := by
    simp only [fields, List.forall_mem_cons]
    exact ⟨fun _ => rfl, nofun, nofun⟩
  exact ⟨hget, htag _ rfl, hmapper mapper' huntagged, hdeclared _ hmem⟩

/-- **A field with a tag may answer to its mapped name,** if it is declared with this name. -/
theorem tagged_field_answers_mapped_name :
    let f : TaggedField := ⟨['a'], some ['t']⟩
    f.tag? = some ['t'] ∧ answering? id [f] (id f.name) = some f ∧
      (ofFields id [f]).get? (id f.name) = some f.name :=
  ⟨rfl, rfl, rfl⟩

end NamedSql.FieldMap
