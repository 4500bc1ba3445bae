import Concord.Proofs.Hierarchy

/-!
# Paths and places

A path leads from the root by the names between its slashes. It is canonical if it has nothing but
these names, with one slash in front of each. A namespace refuses to create anything at a path with
an empty name, except for one: the root's own path ends in a slash, so a second slash in front of a
canonical path goes unnoticed. All that can stand in a namespace is therefore at a canonical path or
at such a doubled one, `Path.IsDoubled`, and where no path with two slashes in front is created,
each place has one path.
-/

namespace Concord

namespace Path

/-- Whether a text can be a name between two slashes. -/
def IsName (name : String) : Prop :=
  name ≠ "" ∧ '/' ∉ name.toList

/-- The path that leads from the root by these names; by none it stays there. -/
def ofNames (names : List String) : String :=
  "/" ++ "/".intercalate names

/-- The names that a path leads by: what stands between its slashes, where anything does. -/
def names (path : String) : List String :=
  ((path.toList.splitOn '/').filter (· ≠ [])).map String.ofList

/-- Whether a path is the root's, or a slash followed by names with single slashes between them. -/
def IsCanonical (path : String) : Prop :=
  ∃ names, (∀ name ∈ names, IsName name) ∧ path = ofNames names

/-- Whether a path is a canonical one to a place below the root, with a second slash in front. -/
def IsDoubled (path : String) : Prop :=
  ∃ names, names ≠ [] ∧ (∀ name ∈ names, IsName name) ∧ path = "/" ++ ofNames names

/-! ## Names -/

/-- The names of a path that is put together are those of its parts. -/
theorem names_append (front back : String) :
    names (front ++ "/" ++ back) = names front ++ names back := by
  have letters : (front ++ "/" ++ back).toList = front.toList ++ '/' :: back.toList := by
    simp
  rw [names, letters, List.splitOn_append_cons_self, List.filter_append, List.map_append]
  rfl

/-- A further slash in front leads nowhere. -/
theorem names_slash (path : String) : names ("/" ++ path) = names path := by
  rw [← String.empty_append (s := "/"), names_append]
  rfl

/-- A name is the only name of itself. -/
theorem names_of_isName {name : String} (isName : IsName name) : names name = [name] := by
  have nonempty : name.toList ≠ [] := fun none => isName.1 (String.toList_eq_nil_iff.1 none)
  rw [names, List.splitOn_eq_singleton isName.2, List.filter_singleton]
  simp [nonempty]

/-- Names that are joined by slashes are found again. -/
theorem names_intercalate {names : List String} (areNames : ∀ name ∈ names, IsName name) :
    Path.names ("/".intercalate names) = names := by
  induction names with
  | nil => rfl
  | cons name rest inductionHypothesis =>
    have isName := areNames name List.mem_cons_self
    have later := inductionHypothesis fun other member =>
      areNames other (List.mem_cons_of_mem _ member)
    cases rest with
    | nil => rw [String.intercalate_singleton, names_of_isName isName]
    | cons next rest =>
      rw [String.intercalate_cons_cons, names_append, names_of_isName isName, later]
      rfl

/-- A path leads by the names that it is made of. -/
theorem names_ofNames {names : List String} (areNames : ∀ name ∈ names, IsName name) :
    Path.names (ofNames names) = names := by
  rw [ofNames, names_slash, names_intercalate areNames]

/-- One name more is put behind one slash more. -/
theorem ofNames_concat {front : List String} (below : front ≠ []) (name : String) :
    ofNames (front ++ [name]) = ofNames front ++ "/" ++ name := by
  rw [ofNames, String.intercalate_append_of_ne_nil below (List.cons_ne_nil name []),
    String.intercalate_singleton, ofNames, String.append_assoc, String.append_assoc,
    String.append_assoc]

/-! ## Canonical and doubled paths -/

/-- The root is written in the one canonical way. -/
theorem isCanonical_root : IsCanonical root :=
  ⟨[], by simp, rfl⟩

/-- There is only one canonical path to a place. -/
theorem IsCanonical.eq_ofNames {path : String} (canonical : IsCanonical path) :
    path = ofNames (names path) := by
  obtain ⟨names, areNames, rfl⟩ := canonical
  rw [names_ofNames areNames]

/-- A path with a doubled slash at its front is the canonical one behind one slash more. -/
theorem IsDoubled.eq_ofNames {path : String} (doubled : IsDoubled path) :
    path = "/" ++ ofNames (names path) := by
  obtain ⟨names, -, areNames, rfl⟩ := doubled
  rw [names_slash, names_ofNames areNames]

/-- A doubled path has two slashes in front. -/
theorem IsDoubled.slashes {path : String} (doubled : IsDoubled path) :
    ∃ rest, path = "//" ++ rest := by
  refine ⟨"/".intercalate (names path), doubled.eq_ofNames.trans ?_⟩
  rw [ofNames, ← String.append_assoc]
  rfl

/-- Paths to one place differ by no more than a slash in front. -/
theorem eq_or_slash_of_names {path other : String} (shape : IsCanonical path ∨ IsDoubled path)
    (otherShape : IsCanonical other ∨ IsDoubled other) (same : names path = names other) :
    path = other ∨ path = "/" ++ other ∨ other = "/" ++ path := by
  rcases shape with canonical | doubled <;> rcases otherShape with otherCanonical | otherDoubled
  · left
    rw [canonical.eq_ofNames, same, ← otherCanonical.eq_ofNames]
  · right
    right
    rw [canonical.eq_ofNames, same, ← otherDoubled.eq_ofNames]
  · right
    left
    rw [doubled.eq_ofNames, same, ← otherCanonical.eq_ofNames]
  · left
    rw [doubled.eq_ofNames, same, ← otherDoubled.eq_ofNames]

/-- What stands below a canonical path or a doubled one has such a path itself. Only below the root
can a slash be one too many. -/
theorem IsParent.shape {parent path : String} (isParent : IsParent parent path)
    (shape : IsCanonical parent ∨ IsDoubled parent) : IsCanonical path ∨ IsDoubled path := by
  obtain ⟨front, name, rfl, named, plain, place⟩ := isParent
  have isName : IsName name := ⟨named, plain⟩
  have further : ∀ {names : List String}, (∀ name ∈ names, IsName name) →
      ∀ other ∈ names ++ [name], IsName other := by
    intro names areNames other member
    rcases List.mem_append.1 member with earlier | last
    · exact areNames other earlier
    · rwa [List.mem_singleton.1 last]
  rcases place with ⟨rfl, -⟩ | ⟨-, rfl⟩
  · left
    refine ⟨[name], by simpa using isName, ?_⟩
    rw [ofNames, String.intercalate_singleton, String.empty_append]
  rcases shape with ⟨names, areNames, rfl⟩ | ⟨names, below, areNames, rfl⟩
  · -- The root's path ends in its slash, so the slash before the name is one too many there.
    by_cases atRoot : names = []
    · right
      subst atRoot
      exact ⟨[name], List.cons_ne_nil _ _, by simpa using isName, String.append_assoc⟩
    · left
      exact ⟨names ++ [name], further areNames, (ofNames_concat atRoot name).symm⟩
  · right
    refine ⟨names ++ [name], by simp, further areNames, ?_⟩
    rw [ofNames_concat below, String.append_assoc, String.append_assoc, String.append_assoc]

end Path

namespace Namespace

/-! ## Where objects can stand -/

/-- The paths that lead up to the root are canonical or doubled, all of them. -/
theorem Climbs.shape {space : Namespace} {path : String} (climbs : space.Climbs path) :
    Path.IsCanonical path ∨ Path.IsDoubled path := by
  induction climbs with
  | root => exact .inl Path.isCanonical_root
  | step above _ _ inductionHypothesis =>
    exact (Path.parent?_eq_some_iff.1 above).shape inductionHypothesis

/-- In a hierarchy nothing is created at any other path, or at the root. -/
theorem Hierarchical.shape_of_creation {space changed : Namespace}
    (hierarchical : space.Hierarchical) {operation : Operation} {kind : ObjectKind}
    (creates : operation.effect = .creation kind) (applied : space.apply operation = .ok changed) :
    operation.path ≠ Path.root ∧
      (Path.IsCanonical operation.path ∨ Path.IsDoubled operation.path) := by
  rw [apply_eq_perform, creates] at applied
  obtain ⟨parent, group, above, inside, -, -, -⟩ := create_eq_ok applied
  have shape := (hierarchical.climbs inside).shape
  refine ⟨?_, (Path.parent?_eq_some_iff.1 above).shape shape⟩
  intro isRoot
  rw [isRoot, Path.parent?_root] at above
  cases above

/-- What an operation puts where nothing was, it creates. -/
theorem creation_of_appears {space : Namespace} {operation : Operation} {path : String}
    (absent : space.get? path = none) (present : (space.after operation).get? path ≠ none) :
    operation.path = path ∧ ∃ kind, operation.effect = .creation kind := by
  by_cases here : path = operation.path
  · subst here
    unfold after at present
    split at present
    · next changed applied =>
      rcases apply_eq_ok applied with ⟨-, rfl⟩ | ⟨kind, _, _, creates, -⟩ | ⟨_, _, _, -, found, -⟩
      · exact absurd absent present
      · exact ⟨rfl, kind, creates⟩
      · rw [absent] at found
        cases found
    · exact absurd absent present
  · rw [space.get?_after_of_ne here] at present
    exact absurd absent present

/-- What stands where nothing stood at first was created there. -/
theorem exists_creation {space : Namespace} {operations : List Operation} {path : String}
    (absent : space.get? path = none) (present : (space.afterAll operations).get? path ≠ none) :
    ∃ operation ∈ operations, operation.path = path ∧
      ∃ kind, operation.effect = .creation kind := by
  induction operations generalizing space with
  | nil => exact absurd absent present
  | cons operation rest inductionHypothesis =>
    -- Either it appears with this operation or it is still to come.
    by_cases still : (space.after operation).get? path = none
    · obtain ⟨later, member, creates⟩ := inductionHypothesis still present
      exact ⟨later, List.mem_cons_of_mem _ member, creates⟩
    · exact ⟨operation, List.mem_cons_self, creation_of_appears absent still⟩

/-- Below the root a name can be taken with a second slash in front, whatever stands at its
canonical path. -/
theorem Hierarchical.create_doubled {space : Namespace} (hierarchical : space.Hierarchical)
    {name : String} (isName : Path.IsName name) (absent : space.get? ("//" ++ name) = none)
    (kind : ObjectKind) : ∃ changed, space.create ("//" ++ name) kind = .ok changed := by
  obtain ⟨group, found, isGroup⟩ := hierarchical.root
  have above : Path.parent? ("//" ++ name) = some Path.root := by
    have cut : "//" ++ name = "/" ++ "/" ++ name := rfl
    rw [cut, Path.parent?_append (.inr rfl) isName.1 isName.2, if_neg (by decide)]
    rfl
  exact ⟨_, create_of_parent above found isGroup absent kind⟩

/-- Whatever operations are tried on the empty namespace: every object stands at a canonical path or
at a doubled one; two paths of objects that lead by the same names differ by no more than a slash in
front; and at any other path, as at the root, a creation is refused. Below the root any name can be
taken with a second slash in front. But if nothing is tried to be created at a path with two slashes
in front, then every object stands at a canonical path, and no two paths of objects lead by the same
names. -/
theorem canonical_unless_doubled (operations : List Operation) :
    let space := empty.afterAll operations
    (∀ path, space.get? path ≠ none → Path.IsCanonical path ∨ Path.IsDoubled path) ∧
    (∀ path other, space.get? path ≠ none → space.get? other ≠ none →
      Path.names path = Path.names other →
      path = other ∨ path = "/" ++ other ∨ other = "/" ++ path) ∧
    (∀ operation kind, operation.effect = .creation kind →
      operation.path = Path.root ∨
        ¬ (Path.IsCanonical operation.path ∨ Path.IsDoubled operation.path) →
      ∃ cause, space.apply operation = .error cause) ∧
    (∀ name kind, Path.IsName name → space.get? ("//" ++ name) = none →
      ∃ changed, space.create ("//" ++ name) kind = .ok changed) ∧
    ((∀ operation ∈ operations, ∀ kind, operation.effect = .creation kind →
        ∀ rest, operation.path ≠ "//" ++ rest) →
      (∀ path, space.get? path ≠ none → Path.IsCanonical path) ∧
      ∀ path other, space.get? path ≠ none → space.get? other ≠ none →
        Path.names path = Path.names other → path = other) := by
  intro space
  have hierarchical : space.Hierarchical := Hierarchical.empty.afterAll operations
  have shape : ∀ path, space.get? path ≠ none → Path.IsCanonical path ∨ Path.IsDoubled path := by
    intro path present
    obtain ⟨object, found⟩ := Option.ne_none_iff_exists'.1 present
    exact (hierarchical.climbs found).shape
  refine ⟨shape, fun path other present otherPresent =>
    Path.eq_or_slash_of_names (shape path present) (shape other otherPresent), ?_,
    fun name kind isName absent => hierarchical.create_doubled isName absent kind, ?_⟩
  · intro operation kind creates misplaced
    cases applied : space.apply operation with
    | error cause => exact ⟨cause, rfl⟩
    | ok changed =>
      obtain ⟨apart, placed⟩ := hierarchical.shape_of_creation creates applied
      rcases misplaced with atRoot | elsewhere
      · exact absurd atRoot apart
      · exact absurd placed elsewhere
  · intro undoubled
    have canonical : ∀ path, space.get? path ≠ none → Path.IsCanonical path := by
      intro path present
      refine (shape path present).resolve_right fun doubled => ?_
      obtain ⟨rest, slashes⟩ := doubled.slashes
      have apart : path ≠ Path.root := by
        intro atRoot
        have letters := congrArg String.toList (atRoot.symm.trans slashes)
        simp [Path.root] at letters
      have absent : empty.get? path = none := by rw [get?_empty, if_neg apart.symm]
      obtain ⟨operation, member, rfl, kind, creates⟩ := exists_creation absent present
      exact undoubled operation member kind creates rest slashes
    refine ⟨canonical, fun path other present otherPresent same => ?_⟩
    rw [(canonical path present).eq_ofNames, same, ← (canonical other otherPresent).eq_ofNames]

/-- A group and a dataset in it, with nothing but names and single slashes. -/
def singleSlashed : List Operation :=
  [.createGroup "/a", .createDataset "/a/d" [2]]

/-- And then a group beside the first whose path has one slash more. -/
def withDoubledSlash : List Operation :=
  singleSlashed ++ [.createGroup "//a"]

/-- A group that is created under two slashes stands beside the one under a single slash, while a
doubled slash further on is refused. -/
theorem canonical_unless_doubled_withDoubledSlash :
    (Path.IsCanonical "//a" ∨ Path.IsDoubled "//a") ∧
    ("/a" = "//a" ∨ "/a" = "/" ++ "//a" ∨ "//a" = "/" ++ "/a") ∧
    (∃ cause, (empty.afterAll withDoubledSlash).apply (.createGroup "/a//b") = .error cause) ∧
    (∃ changed, (empty.afterAll withDoubledSlash).create "//b" .group = .ok changed) ∧
    Path.IsCanonical "/a/d" := by
  have plain : (empty.afterAll withDoubledSlash).get? "/a" ≠ none := by decide +kernel
  have doubled : (empty.afterAll withDoubledSlash).get? "//a" ≠ none := by decide +kernel
  have dataset : (empty.afterAll singleSlashed).get? "/a/d" ≠ none := by decide +kernel
  have absent : (empty.afterAll withDoubledSlash).get? "//b" = none := by
    have free : ((empty.afterAll withDoubledSlash).get? "//b").isNone = true := by decide +kernel
    exact Option.isNone_iff_eq_none.1 free
  obtain ⟨shape, alike, refused, doubling, -⟩ := canonical_unless_doubled withDoubledSlash
  obtain ⟨-, -, -, -, single⟩ := canonical_unless_doubled singleSlashed
  have misplaced : ¬ (Path.IsCanonical "/a//b" ∨ Path.IsDoubled "/a//b") := by
    rintro (canonical | doubled)
    · exact absurd canonical.eq_ofNames (by decide +kernel)
    · exact absurd doubled.eq_ofNames (by decide +kernel)
  have undoubled : ∀ operation ∈ singleSlashed, ∀ kind, operation.effect = .creation kind →
      ∀ rest, operation.path ≠ "//" ++ rest := by
    intro operation member kind creates rest slashes
    have letters := congrArg String.toList slashes
    rcases List.mem_cons.1 member with rfl | later
    · simp [Operation.path] at letters
    · rw [List.mem_singleton.1 later] at letters
      simp [Operation.path] at letters
  exact ⟨shape _ doubled, alike _ _ plain doubled (by decide +kernel),
    refused (.createGroup "/a//b") .group rfl (.inr misplaced),
    doubling "b" .group ⟨by decide, by decide⟩ absent, (single undoubled).1 _ dataset⟩

/-- Two groups at one place, one of them at a path with an empty name. -/
theorem two_paths_to_one_place :
    (empty.afterAll withDoubledSlash).get? "/a" ≠ none ∧
    (empty.afterAll withDoubledSlash).get? "//a" ≠ none ∧
      Path.names "/a" = Path.names "//a" ∧ ¬ Path.IsCanonical "//a" := by
  refine ⟨by decide +kernel, by decide +kernel, by decide +kernel, ?_⟩
  intro canonical
  exact absurd canonical.eq_ofNames (by decide +kernel)

end Namespace

end Concord
