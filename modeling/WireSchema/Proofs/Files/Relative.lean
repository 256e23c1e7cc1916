import WireSchema.Files.Output
import WireSchema.Proofs.Files.Places

namespace WireSchema.Path

-- A relative path goes up as often as the directory has components of its own and down from there,
-- as long as the directory's own components are names.

-- One component further: a name goes down and a `..` takes the last name back. A `..` that finds no
-- name stays, but there is nothing above the top.
def climb (way : List Component) : Component → List Component
  | .current => way
  | .parent =>
    match way.getLast? with
    | some (.normal _) => way.dropLast
    | some .root => way
    | _ => way ++ [.parent]
  | c => way ++ [c]

-- A path without `.` and, as far as its spelling allows, without `..`.
def normal (path : String) : List Component :=
  (components path).foldl climb []

structure Parting (source target : String) (shared up down : List Component) : Prop where
  source : plainComponents source = shared ++ up
  target : plainComponents target = shared ++ down
  longest : ∀ c ∈ up.head?, c ∉ down.head?

structure Solid (piece : String) : Prop where
  single : '/' ∉ piece.toList
  counts : isIdle piece = false

def origin : List Char → List Component
  | '/' :: _ => [.root]
  | ['.'] => [.current]
  | '.' :: '/' :: _ => [.current]
  | _ => []

def body (path : String) : List Component :=
  (pieces path.toList).filterMap bodyComponent?

section

variable {source target path name : String} {shared up down : List Component}
  {front back text : List Char} {c : Component} {names : List String}

theorem pieces_append (front back : List Char) :
    pieces (front ++ '/' :: back) = pieces front ++ pieces back := by
  rw [pieces, List.splitOn_append_cons_self, List.map_append]
  rfl

theorem pieces_slash : pieces ('/' :: back) = "" :: pieces back :=
  pieces_append [] back

theorem pieces_solid (solid : Solid name) : pieces name.toList = [name] := by
  rw [pieces, List.splitOn_eq_singleton solid.single, List.map_singleton, String.ofList_toList]

theorem components_eq (path : String) : components path = origin path.toList ++ body path := by
  unfold components body
  fun_cases split path
  · rename_i rest text
    rw [text, pieces_slash]
    rfl
  · rename_i text
    rw [text]
    rfl
  · rename_i rest text
    have whole : pieces ('.' :: '/' :: rest) = "." :: pieces rest := pieces_append ['.'] rest
    have inner : pieces ('/' :: rest) = "" :: pieces rest := pieces_slash
    rw [text, whole]
    simp only [inner]
    rfl
  · rename_i top alone below
    have nothing : origin path.toList = [] := by
      unfold origin
      split
      · rename_i text
        exact absurd text (top _)
      · rename_i text
        exact absurd text alone
      · rename_i text
        exact absurd text (below _)
      · rfl
    rw [nothing]

theorem bodyComponent?_text (found : bodyComponent? name = some c) :
    c.text = name ∧ isIdle name = false ∧ c ≠ .root ∧ c ≠ .current := by
  unfold bodyComponent? at found
  split at found
  · cases found
  · rename_i counts
    split at found
    · rename_i back
      cases found
      exact ⟨(beq_iff_eq.mp back).symm, by simpa using counts, by simp, by simp⟩
    · cases found
      exact ⟨rfl, by simpa using counts, by simp, by simp⟩

theorem body_texts (path : String) :
    (body path).map Component.text = (pieces path.toList).filter (!isIdle ·) := by
  unfold body
  induction pieces path.toList with
  | nil => rfl
  | cons piece rest ih =>
    cases found : bodyComponent? piece with
    | none =>
      have idle : isIdle piece = true := by
        unfold bodyComponent? at found
        split at found
        · assumption
        · split at found <;> cases found
      rw [List.filterMap_cons_none found, ih, List.filter_cons_of_neg (by simp [idle])]
    | some c =>
      obtain ⟨text, counts, _⟩ := bodyComponent?_text found
      rw [List.filterMap_cons_some found, List.map_cons, ih, text,
        List.filter_cons_of_pos (by simp [counts])]

theorem piece_single (member : name ∈ pieces text) : '/' ∉ name.toList := by
  obtain ⟨piece, there, rfl⟩ := List.mem_map.mp member
  rw [String.toList_ofList]
  clear member
  induction text generalizing piece with
  | nil =>
    cases List.mem_singleton.mp there
    exact List.not_mem_nil
  | cons c rest ih =>
    rw [List.splitOn_cons_eq_if_modifyHead] at there
    split at there
    · rcases List.mem_cons.mp there with rfl | later
      · exact List.not_mem_nil
      · exact ih piece later
    · rename_i other
      cases cut : rest.splitOn '/' with
      | nil => simp [cut] at there
      | cons first more =>
        rw [cut, List.modifyHead_cons] at there
        have inside (l : List Char) (member : l ∈ first :: more) : '/' ∉ l :=
          ih l (by rwa [cut])
        rcases List.mem_cons.mp there with rfl | later
        · have apart : '/' ≠ c := fun same => other (beq_iff_eq.mpr same.symm)
          simpa [apart] using inside first (List.mem_cons_self ..)
        · exact inside piece (List.mem_cons_of_mem _ later)

theorem solid_of_body (member : c ∈ body path) : Solid c.text ∧ bodyComponent? c.text = some c ∧
    c ≠ .root ∧ c ≠ .current := by
  obtain ⟨piece, there, found⟩ := List.mem_filterMap.mp member
  obtain ⟨text, counts, below, plain⟩ := bodyComponent?_text found
  rw [text]
  exact ⟨⟨piece_single there, counts⟩, found, below, plain⟩

theorem origin_append (some : front ≠ []) : origin (front ++ '/' :: back) = origin front := by
  match front, some with
  | ['/'], _ => rfl
  | ['.'], _ => rfl
  | [c], _ =>
    simp only [List.cons_append, List.nil_append]
    unfold origin
    split <;> simp_all
  | c :: d :: rest, _ =>
    simp only [List.cons_append]
    unfold origin
    split <;> simp_all

theorem join_cases (source : String) (relative : isAbsolute path = false) :
    (source = "" ∧ join source path = path) ∨
    (∃ front, source.toList = front ++ ['/'] ∧
      (join source path).toList = front ++ '/' :: path.toList) ∨
    (source ≠ "" ∧ (join source path).toList = source.toList ++ '/' :: path.toList) := by
  unfold join
  by_cases empty : source = ""
  · exact .inl ⟨empty, by simp [empty]⟩
  · have within : (isAbsolute path || source.isEmpty) = false := by
      simp [relative, empty]
    rw [within]
    by_cases slash : source.toList.getLast? = some '/'
    · obtain ⟨front, parts⟩ := List.getLast?_eq_some_iff.mp slash
      refine .inr (.inl ⟨front, parts, ?_⟩)
      simp [parts]
    · refine .inr (.inr ⟨empty, ?_⟩)
      simp [slash]

theorem components_join (relative : isAbsolute path = false) (plain : origin path.toList = []) :
    components (join source path) = components source ++ components path := by
  simp only [components_eq, body, plain, List.nil_append]
  rcases join_cases source relative with ⟨rfl, same⟩ | ⟨front, slash, text⟩ | ⟨some, text⟩
  · rw [same, plain]
    rfl
  · have ends : (pieces (front ++ ['/'])).filterMap bodyComponent? =
        (pieces front).filterMap bodyComponent? := by
      rw [pieces_append, List.filterMap_append]
      exact List.append_nil _
    rw [text, slash, ends, pieces_append, List.filterMap_append, ← List.append_assoc]
    cases front with
    | nil => rfl
    | cons c rest => rw [origin_append (by simp), origin_append (by simp)]
  · rw [text, pieces_append, List.filterMap_append, ← List.append_assoc,
      origin_append (by simpa using some)]

theorem Solid.nonempty (solid : Solid name) : name ≠ "" := by
  rintro rfl
  exact absurd solid.counts (by decide)

theorem Solid.relative (solid : Solid name) : isAbsolute name = false := by
  rw [isAbsolute, beq_eq_false_iff_ne]
  intro first
  exact solid.single (List.mem_of_mem_head? first)

theorem Solid.ends (solid : Solid name) : name.toList.getLast? ≠ some '/' :=
  fun last => solid.single (List.mem_of_getLast? last)

theorem pieces_join (some : source ≠ "") (ends : source.toList.getLast? ≠ Option.some '/')
    (solid : Solid name) : (join source name).toList = source.toList ++ '/' :: name.toList := by
  rcases join_cases source solid.relative with ⟨empty, _⟩ | ⟨_, slash, _⟩ | ⟨_, text⟩
  · exact absurd empty some
  · exact absurd (by simp [slash]) ends
  · exact text

theorem pieces_further (some : source ≠ "") (ends : source.toList.getLast? ≠ Option.some '/')
    (solid : ∀ n ∈ names, Solid n) :
    pieces (names.foldl join source).toList = pieces source.toList ++ names := by
  induction names generalizing source with
  | nil => exact (List.append_nil _).symm
  | cons name rest ih =>
    obtain ⟨here, others⟩ := List.forall_mem_cons.mp solid
    have joined := pieces_join some ends here
    have more : join source name ≠ "" := by
      intro none
      rw [none] at joined
      simp at joined
    have last : (join source name).toList.getLast? ≠ Option.some '/' := by
      rw [joined, List.getLast?_append, List.getLast?_cons]
      have inner := here.ends
      cases whole : name.toList.getLast? with
      | none => exact absurd (by simpa using whole) here.nonempty
      | some c => simpa [whole] using inner
    rw [List.foldl_cons, ih more last others, joined, pieces_append, pieces_solid here,
      List.append_assoc]
    rfl

theorem pieces_names (some : names ≠ []) (solid : ∀ n ∈ names, Solid n) :
    pieces (names.foldl join "").toList = names := by
  cases names with
  | nil => exact absurd rfl some
  | cons name rest =>
    obtain ⟨here, others⟩ := List.forall_mem_cons.mp solid
    have first : join "" name = name := by
      simp [join]
    rw [List.foldl_cons, first, pieces_further here.nonempty here.ends others, pieces_solid here]
    rfl

theorem origin_solid {first : String} {rest : List String} (parts : pieces text = first :: rest)
    (counts : isIdle first = false) : origin text = [] := by
  unfold origin
  split
  · rw [pieces_slash] at parts
    cases parts
    exact absurd counts (by decide)
  · cases parts
    exact absurd counts (by decide)
  · rename_i back
    have whole : pieces ('.' :: '/' :: back) = "." :: pieces back := pieces_append ['.'] back
    rw [whole] at parts
    cases parts
    exact absurd counts (by decide)
  · rfl

theorem components_names (solid : ∀ n ∈ names, Solid n) :
    isAbsolute (names.foldl join "") = false ∧ origin (names.foldl join "").toList = [] ∧
      components (names.foldl join "") = names.filterMap bodyComponent? := by
  have start : origin (names.foldl join "").toList = [] := by
    cases names with
    | nil => rfl
    | cons name rest =>
      exact origin_solid (pieces_names (by simp) solid) (solid name (List.mem_cons_self ..)).counts
  refine ⟨?_, start, ?_⟩
  · rw [isAbsolute, beq_eq_false_iff_ne]
    intro top
    obtain ⟨rest, text⟩ := List.head?_eq_some_iff.mp top
    rw [text] at start
    cases start
  · rw [components_eq, start, List.nil_append, body]
    cases names with
    | nil => rfl
    | cons name rest => rw [pieces_names (by simp) solid]

theorem commonLength_shared (longest : ∀ c ∈ up.head?, c ∉ down.head?) :
    commonLength (shared ++ up) (shared ++ down) = shared.length := by
  induction shared with
  | nil =>
    cases up with
    | nil => rfl
    | cons c rest =>
      cases down with
      | nil => rfl
      | cons d more =>
        have apart : c ≠ d := by
          rintro rfl
          exact longest c rfl rfl
        simp [commonLength, apart]
  | cons c rest ih => simp [commonLength, ih]

def detour (up down : List Component) : List String :=
  List.replicate up.length ".." ++ down.map Component.text

theorem Parting.relative (parting : Parting source target shared up down) :
    relative source target = (detour up down).foldl join "" := by
  unfold Path.relative
  simp only [parting.source, parting.target, commonLength_shared parting.longest,
    List.length_append, Nat.add_sub_cancel_left, List.drop_left]
  rfl

theorem plainComponents_eq (path : String) :
    plainComponents path = (if isAbsolute path then [.root] else []) ++ body path := by
  have plain : (body path).filter (· != .current) = body path := by
    refine List.filter_eq_self.mpr fun c member => ?_
    simpa using (solid_of_body member).2.2.2
  rw [plainComponents, components_eq, List.filter_append, plain, isAbsolute]
  unfold origin
  split
  · rename_i text
    rw [text]
    rfl
  · rename_i text
    rw [text]
    rfl
  · rename_i text
    rw [text]
    rfl
  · rename_i top _ _
    have relative : path.toList.head? ≠ some '/' := by
      intro first
      obtain ⟨rest, text⟩ := List.head?_eq_some_iff.mp first
      exact top rest text
    simp [relative]

-- Two absolute paths share their start, so what is left of each lies between slashes.
theorem Parting.bodies (parting : Parting source target shared up down)
    (kind : isAbsolute source = isAbsolute target) :
    ∃ rest, body source = rest ++ up ∧ body target = rest ++ down := by
  have here := parting.source
  have there := parting.target
  rw [plainComponents_eq] at here there
  rw [← kind] at there
  by_cases absolute : isAbsolute source = true
  · rw [if_pos absolute, List.singleton_append] at here there
    cases shared with
    | nil =>
      rw [List.nil_append] at here there
      exact absurd (by rw [← there]; rfl) (parting.longest .root (by rw [← here]; rfl))
    | cons c rest => exact ⟨rest, (List.cons.inj here).2, (List.cons.inj there).2⟩
  · rw [if_neg absolute, List.nil_append] at here there
    exact ⟨shared, here, there⟩

theorem Parting.solid (parting : Parting source target shared up down)
    (kind : isAbsolute source = isAbsolute target) :
    ∀ c ∈ down, Solid c.text ∧ bodyComponent? c.text = some c ∧ c ≠ .root ∧ c ≠ .current := by
  obtain ⟨rest, _, there⟩ := parting.bodies kind
  intro c member
  exact solid_of_body (there ▸ List.mem_append_right rest member)

theorem Parting.named (parting : Parting source target shared up down)
    (kind : isAbsolute source = isAbsolute target) (forth : .parent ∉ up) :
    ∀ c ∈ up, ∃ name, c = .normal name ∧ isIdle name = false ∧ name ≠ ".." := by
  obtain ⟨rest, here, _⟩ := parting.bodies kind
  intro c member
  obtain ⟨solid, found, below, plain⟩ := solid_of_body (here ▸ List.mem_append_right rest member)
  have named := ne_of_mem_of_not_mem member forth
  cases c with
  | normal name =>
    refine ⟨name, rfl, solid.counts, ?_⟩
    rintro rfl
    cases found
  | _ => contradiction

theorem detour_solid
    (each : ∀ c ∈ down, Solid c.text ∧ bodyComponent? c.text = some c ∧ c ≠ .root ∧ c ≠ .current) :
    (∀ n ∈ detour up down, Solid n) ∧
      (detour up down).filterMap bodyComponent? = List.replicate up.length .parent ++ down := by
  constructor
  · intro n member
    rcases List.mem_append.mp member with back | forth
    · cases List.eq_of_mem_replicate back
      exact ⟨by decide, by decide⟩
    · obtain ⟨c, there, rfl⟩ := List.mem_map.mp forth
      exact (each c there).1
  · have back : bodyComponent? ".." = some .parent := by decide
    have forth : (down.map Component.text).filterMap bodyComponent? = down := by
      rw [List.filterMap_map]
      refine (List.filterMap_congr fun c member => ?_).trans (List.filterMap_some ..)
      exact (each c member).2.1
    rw [detour, List.filterMap_append, forth, List.filterMap_replicate_of_some back]

theorem Parting.joined (parting : Parting source target shared up down)
    (kind : isAbsolute source = isAbsolute target) :
    plainComponents (join source (Path.relative source target)) =
      shared ++ (up ++ List.replicate up.length .parent ++ down) := by
  have each := parting.solid kind
  obtain ⟨solid, inner⟩ : (∀ n ∈ detour up down, Solid n) ∧ _ := detour_solid each
  obtain ⟨relative, start, parts⟩ := components_names solid
  have plain : (List.replicate up.length Component.parent ++ down).filter (· != .current) =
      List.replicate up.length .parent ++ down := by
    refine List.filter_eq_self.mpr fun c member => ?_
    rcases List.mem_append.mp member with back | forth
    · rw [List.eq_of_mem_replicate back]
      rfl
    · simpa using (each c forth).2.2.2
  rw [parting.relative, plainComponents, components_join relative start, List.filter_append, parts,
    inner, plain, ← plainComponents, parting.source]
  simp only [List.append_assoc]

-- A way that goes back over the names it came by has changed nothing.
theorem detour_undone {σ : Type} {step : σ → Component → σ}
    (undone : ∀ s name, step (step s (.normal name)) .parent = s)
    (named : ∀ c ∈ up, ∃ name, c = Component.normal name) (s : σ) :
    (up ++ List.replicate up.length Component.parent).foldl step s = s := by
  induction up generalizing s with
  | nil => rfl
  | cons c rest ih =>
    obtain ⟨⟨name, rfl⟩, others⟩ := List.forall_mem_cons.mp named
    rw [List.length_cons, List.replicate_succ', ← List.append_assoc, List.foldl_concat,
      List.cons_append, List.foldl_cons, ih others]
    exact undone s name

theorem climb_undone (way : List Component) (name : String) :
    climb (climb way (.normal name)) .parent = way := by
  simp [climb]

theorem normal_plain (path : String) : normal path = (plainComponents path).foldl climb [] := by
  have skipped (cs way : List Component) :
      cs.foldl climb way = (cs.filter (· != .current)).foldl climb way := by
    induction cs generalizing way with
    | nil => rfl
    | cons c rest ih =>
      by_cases here : c = .current
      · rw [here]
        exact ih way
      · rw [List.filter_cons_of_pos (by simpa using here)]
        exact ih _
  exact skipped _ _

theorem Parting.leads (parting : Parting source target shared up down)
    (kind : isAbsolute source = isAbsolute target) (forth : .parent ∉ up) :
    normal (join source (Path.relative source target)) = normal target := by
  have named : ∀ c ∈ up, ∃ name, c = .normal name := by
    intro c member
    obtain ⟨name, same, _⟩ := parting.named kind forth c member
    exact ⟨name, same⟩
  have undone := detour_undone climb_undone named
  rw [normal_plain, normal_plain, parting.joined kind, parting.target, List.foldl_append,
    List.foldl_append, undone, ← List.foldl_append]

theorem withSlashes_plain (plain : '\\' ∉ path.toList) : withSlashes path = path := by
  refine String.toList_injective ?_
  rw [withSlashes, String.toList_map]
  refine (List.map_congr_left fun c member => ?_).trans (List.map_id _)
  exact if_neg (ne_of_mem_of_not_mem member plain)

end

end WireSchema.Path

namespace WireSchema.Files

open WireSchema.Path (Component Parting Solid detour)

namespace FileTree

variable {t : FileTree} {here p d : Place} {names ups : List String} {directory path : String}

-- What the idle pieces ask for can only fail.
theorem follow_counting (led : t.follow here names = .ok p) :
    t.follow here (names.filter (!Path.isIdle ·)) = .ok p := by
  induction names generalizing here with
  | nil => exact led
  | cons name rest ih =>
    obtain ⟨standing, fits, further⟩ := follow_cons.mp led
    by_cases idle : Path.isIdle name = true
    · have here' : Path.enter here name = here := if_pos idle
      rw [List.filter_cons_of_neg (by simp [idle])]
      exact ih (here' ▸ further)
    · rw [List.filter_cons_of_pos (by simp [idle])]
      exact follow_cons.mpr ⟨standing, fits, ih further⟩

theorem follow_standing (led : t.follow here names = .ok d)
    (standing : t.entry? d = some .directory) : t.entry? here = some .directory := by
  cases names with
  | nil =>
    cases led
    exact standing
  | cons name rest => exact (follow_cons.mp led).1

theorem follow_back (led : t.follow here ups = .ok d) (standing : t.entry? d = some .directory)
    (named : ∀ name ∈ ups, Path.isIdle name = false ∧ name ≠ "..") (rest : List String) :
    t.follow d (List.replicate ups.length ".." ++ rest) = t.follow here rest := by
  induction ups generalizing here rest with
  | nil =>
    cases led
    rfl
  | cons name more ih =>
    obtain ⟨⟨counts, forth⟩, others⟩ := List.forall_mem_cons.mp named
    obtain ⟨_, _, further⟩ := follow_cons.mp led
    have down : Path.enter here name = here ++ [name] := by
      simp [Path.enter, counts, forth]
    rw [down] at further
    have above : t.entry? (here ++ [name]) = some .directory := follow_standing further standing
    rw [List.length_cons, List.replicate_succ', List.append_assoc, ih further others,
      List.singleton_append, follow, above]
    have back : Path.isIdle ".." = false := by decide
    simp [back]

theorem start_join (relative : Path.isAbsolute path = false) :
    t.start (Path.join directory path) = t.start directory := by
  have kind : Path.isAbsolute (Path.join directory path) = Path.isAbsolute directory := by
    unfold Path.isAbsolute
    rcases Path.join_cases directory relative with
      ⟨rfl, same⟩ | ⟨front, slash, text⟩ | ⟨some, text⟩
    · rw [same]
      exact relative
    · rw [text, slash]
      cases front <;> rfl
    · have first : directory.toList ≠ [] := by simpa using some
      rw [text, List.head?_append_of_ne_nil _ first]
  rw [start, start, kind]

theorem follow_join (relative : Path.isAbsolute path = false)
    (led : t.follow (t.start directory) (Path.pieces directory.toList) = .ok d)
    (standing : t.entry? d = some .directory) :
    t.follow (t.start (Path.join directory path)) (Path.pieces (Path.join directory path).toList) =
      t.follow d (Path.pieces path.toList) := by
  rw [start_join relative]
  rcases Path.join_cases directory relative with
    ⟨rfl, same⟩ | ⟨front, slash, text⟩ | ⟨_, text⟩
  · obtain ⟨_, _, further⟩ := follow_cons.mp led
    cases further
    rw [same]
    rfl
  · rw [slash, Path.pieces_append, follow_append] at led
    obtain ⟨place, before, last⟩ := bind_ok_exact.mp led
    obtain ⟨_, _, further⟩ := follow_cons.mp last
    cases further
    rw [text, Path.pieces_append, follow_append, before]
    rfl
  · rw [text, Path.pieces_append, follow_append, led]
    rfl

theorem follow_joined (solid : ∀ n ∈ names, Solid n) (standing : t.entry? d = some .directory) :
    t.follow d (Path.pieces (names.foldl Path.join "").toList) = t.follow d names := by
  cases names with
  | nil =>
    show t.follow d [""] = .ok d
    exact follow_cons.mpr ⟨standing, .inl (by decide), rfl⟩
  | cons name rest => rw [Path.pieces_names (by simp) solid]

theorem follow_relative {source target : String} {shared up down : List Component}
    (parting : Parting source target shared up down)
    (kind : Path.isAbsolute source = Path.isAbsolute target) (forth : .parent ∉ up)
    (led : t.follow (t.start source) (Path.pieces source.toList) = .ok d)
    (standing : t.entry? d = some .directory)
    (there : t.follow (t.start target) (Path.pieces target.toList) = .ok p) :
    t.follow (t.start (Path.join source (Path.relative source target)))
      (Path.pieces (Path.join source (Path.relative source target)).toList) = .ok p := by
  obtain ⟨solid, _⟩ : (∀ n ∈ detour up down, Solid n) ∧ _ := Path.detour_solid (parting.solid kind)
  obtain ⟨rest, here, below⟩ := parting.bodies kind
  have start : t.start target = t.start source := by
    rw [FileTree.start, FileTree.start, kind]
  have first := follow_counting led
  have second := follow_counting there
  rw [← Path.body_texts, here, List.map_append, follow_append] at first
  rw [start, ← Path.body_texts, below, List.map_append, follow_append] at second
  obtain ⟨place, before, ups⟩ := bind_ok_exact.mp first
  obtain ⟨place', again, downs⟩ := bind_ok_exact.mp second
  cases before.symm.trans again
  have named : ∀ name ∈ up.map Component.text, Path.isIdle name = false ∧ name ≠ ".." := by
    intro name member
    obtain ⟨c, inside, rfl⟩ := List.mem_map.mp member
    obtain ⟨name, rfl, proper⟩ := parting.named kind forth c inside
    exact proper
  have back := follow_back ups standing named (down.map Component.text)
  rw [List.length_map] at back
  rw [parting.relative, follow_join (Path.components_names solid).1 led standing,
    follow_joined solid standing, detour, back, downs]

theorem standing_exact : t.isDirectory path = true ↔
    ∃ d, t.locate path = .ok d ∧ t.entry? d = some .directory := by
  rw [← find_exact]
  unfold isDirectory
  split <;> simp_all

end FileTree

namespace Target

def directory (t : Target) : String :=
  (Path.parent? t.sourcePath).getD ""

theorem stagingDirectory_eq (t : Target) :
    stagingDirectory t.sourcePath = if t.directory = "" then "." else t.directory := by
  unfold stagingDirectory directory
  cases Path.parent? t.sourcePath with
  | none => rfl
  | some parent => simp

theorem directory_led {t : Target} {files : FileTree}
    (standing : files.isDirectory (stagingDirectory t.sourcePath) = true) :
    ∃ d, files.follow (files.start t.directory) (Path.pieces t.directory.toList) = .ok d ∧
      files.entry? d = some .directory := by
  obtain ⟨d, led, standing⟩ := FileTree.standing_exact.mp standing
  obtain ⟨_, led⟩ := FileTree.locate_exact.mp led
  rw [stagingDirectory_eq] at led
  refine ⟨d, ?_, standing⟩
  by_cases here : t.directory = ""
  · rw [if_pos here] at led
    rw [here]
    obtain ⟨above, _, further⟩ := FileTree.follow_cons.mp led
    cases further
    exact FileTree.follow_cons.mpr ⟨above, .inl (by decide), rfl⟩
  · rwa [if_neg here] at led

-- The way from a directory to a path leads, by its spelling, to where the path leads. So the path
-- that the source includes is one to the header, unless a name on the way holds a backslash; and in
-- a tree where the source's directory is there and the header can be looked up, following it from
-- that directory finds the header.
theorem include_path_leads :
    (∀ (source target : String) (shared up down : List Component),
      Parting source target shared up down → Path.isAbsolute source = Path.isAbsolute target →
      .parent ∉ up →
      Path.normal (Path.join source (Path.relative source target)) = Path.normal target) ∧
    ∀ (t : Target) (shared up down : List Component),
      Parting t.directory t.headerPath shared up down →
      Path.isAbsolute t.directory = Path.isAbsolute t.headerPath → .parent ∉ up →
      '\\' ∉ (Path.relative t.directory t.headerPath).toList →
      Path.normal (Path.join t.directory t.includePath) = Path.normal t.headerPath ∧
      ∀ (files : FileTree) (p : Place),
        files.isDirectory (stagingDirectory t.sourcePath) = true →
        files.locate t.headerPath = .ok p →
        FileTree.checkPath (Path.join t.directory t.includePath) = .ok () →
        files.locate (Path.join t.directory t.includePath) = .ok p := by
  refine ⟨fun _ _ _ _ _ parting => parting.leads, ?_⟩
  intro t shared up down parting kind forth plain
  have same : t.includePath = Path.relative t.directory t.headerPath :=
    Path.withSlashes_plain plain
  rw [same]
  refine ⟨parting.leads kind forth, ?_⟩
  intro files p standing found passed
  obtain ⟨d, led, standing⟩ := directory_led standing
  obtain ⟨_, there⟩ := FileTree.locate_exact.mp found
  exact FileTree.locate_exact.mpr
    ⟨passed, FileTree.follow_relative parting kind forth led standing there⟩

def codecTarget : Target :=
  { input := "idl/codec.idl", header := "include/codec_decl.rs", source := "src/codec.rs",
    outputBase := some "out" }

def codecTree : FileTree :=
  { entries := [(["out"], .directory), (["out", "src"], .directory),
      (["out", "include"], .directory), (["out", "include", "codec_decl.rs"], .file [])] }

theorem include_path_leads_codec :
    Path.normal (Path.join "/a/b" (Path.relative "/a/b" "/c/../d")) = [.root, .normal "d"] ∧
      codecTarget.includePath = "../include/codec_decl.rs" ∧
      Path.normal (Path.join codecTarget.directory codecTarget.includePath) =
        [.normal "out", .normal "include", .normal "codec_decl.rs"] ∧
      codecTree.locate (Path.join codecTarget.directory codecTarget.includePath) =
        .ok ["out", "include", "codec_decl.rs"] := by
  have first := include_path_leads.1 "/a/b" "/c/../d" [.root] [.normal "a", .normal "b"]
    [.normal "c", .parent, .normal "d"] ⟨by decide +kernel, by decide +kernel, by decide⟩
    (by decide) (by decide)
  have parting : Parting codecTarget.directory codecTarget.headerPath [.normal "out"]
      [.normal "src"] [.normal "include", .normal "codec_decl.rs"] :=
    ⟨by decide +kernel, by decide +kernel, by decide⟩
  obtain ⟨leads, found⟩ := include_path_leads.2 codecTarget _ _ _ parting (by decide +kernel)
    (by decide) (by decide +kernel)
  have there : codecTree.locate codecTarget.headerPath =
      .ok ["out", "include", "codec_decl.rs"] := by decide +kernel
  have second : Path.normal codecTarget.headerPath =
      [.normal "out", .normal "include", .normal "codec_decl.rs"] := by decide +kernel
  refine ⟨first.trans (by decide +kernel), by decide +kernel, leads.trans second, ?_⟩
  exact found codecTree _ (by decide +kernel) there (by decide +kernel)

-- A backslash is part of a name, and a slash in its place leads elsewhere.
theorem backslash_lost :
    ¬∀ (t : Target) (shared up down : List Component),
      Parting t.directory t.headerPath shared up down →
      Path.isAbsolute t.directory = Path.isAbsolute t.headerPath → .parent ∉ up →
      Path.normal (Path.join t.directory t.includePath) = Path.normal t.headerPath := by
  intro leads
  have same := leads ⟨"c.idl", "a\\b.rs", "c.rs", none⟩ [] [] [.normal "a\\b.rs"]
    ⟨by decide +kernel, by decide +kernel, by decide⟩ (by decide +kernel) (by decide)
  exact absurd same (by decide +kernel)

end Target

end WireSchema.Files
