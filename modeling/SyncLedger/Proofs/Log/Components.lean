import Mathlib.Data.List.Nodup
import SyncLedger.Proofs.Log.Directive
import SyncLedger.Proofs.Log.Precedence

/-!
# The level of the components

A list of directives says with which level events about its targets are let through, and the
components that it says nothing about have a level of their own. Whether it says something about
a component is looked up in its text, by the name of the component and a sign of equality. That
is not the same: a name alone has no sign of equality, and the name of a component may be the end
of another name. `Mentions` is what the text shows, `ruling?` what the list says, and a component
is let through as the list says exactly where the two do not come apart.
-/

namespace SyncLedger

namespace LogFilter

open LogDirective

/-! ## Lists of directives -/

/-- The text of a list of directives. -/
def listing (ds : List TargetDirective) : List Char :=
  [','].intercalate (ds.map TargetDirective.text)

/-- The directives of a list. Errors are let through if there are none. -/
def listed : List TargetDirective → List LogDirective
  | [] => [.plain none (some .error)]
  | d :: ds => (d :: ds).map TargetDirective.directive

theorem comma_not_mem_text (d : TargetDirective) : ',' ∉ d.text := by
  intro hmem
  rw [TargetDirective.text] at hmem
  have htarget : ',' ∉ d.target := fun h => (d.isName ',' h).1 rfl
  cases hword : d.word with
  | none =>
      rw [hword] at hmem
      exact htarget hmem
  | some w =>
      rw [hword] at hmem
      rcases List.mem_append.mp hmem with h | h
      · exact htarget h
      · rcases List.mem_cons.mp h with h | h
        · cases h
        · rcases LogLimit.isAlphanum_or_eq_of_granted? (d.isLevel w hword) ',' h with h | h
          · cases h
          · cases h

theorem text_ne_nil (d : TargetDirective) : d.text ≠ [] := by
  obtain ⟨c, cs, htarget, -, -⟩ := d.exists_target_eq_cons
  rw [TargetDirective.text, htarget]
  cases d.word with
  | none => exact List.cons_ne_nil _ _
  | some w => exact List.cons_ne_nil _ _

theorem pieces_listing {ds : List TargetDirective} (h : ds ≠ []) :
    pieces (listing ds) = ds.map TargetDirective.text := by
  have hsplit : (listing ds).splitOn ',' = ds.map TargetDirective.text := by
    refine List.splitOn_intercalate ',' ?_ (by simpa using h)
    rw [List.forall_mem_map]
    exact fun d _ => comma_not_mem_text d
  rw [pieces, hsplit, List.filter_eq_self, List.forall_mem_map]
  intro d _
  rw [Bool.not_eq_true', List.isEmpty_eq_false_iff]
  exact text_ne_nil d

/-- The text of a list is read as that list. -/
theorem ofText_listing (ds : List TargetDirective) :
    ofText (listing ds) = (listed ds).foldl add ⟨[]⟩ := by
  cases ds with
  | nil => rfl
  | cons d ds =>
      have hread : (pieces (listing (d :: ds))).filterMap readable? = listed (d :: ds) := by
        rw [pieces_listing (List.cons_ne_nil d ds), List.filterMap_map, listed,
          ← List.filterMap_eq_map]
        refine List.filterMap_congr fun e _ => ?_
        rw [Function.comp_apply, readable?, e.read_text]
        rfl
      have hstatic : (listed (d :: ds)).filter LogDirective.isStatic = listed (d :: ds) := by
        rw [listed, List.filter_eq_self, List.forall_mem_map]
        exact fun e _ => rfl
      rw [ofText, hread]
      rw [listed, List.map_cons] at hstatic ⊢
      exact congrArg (List.foldl add ⟨[]⟩) hstatic

/-! ## Mentions -/

/-- A directive of the list has a level, and its name ends with that of a component. -/
def Mentions (ds : List TargetDirective) (component : String) : Prop :=
  ∃ d ∈ ds, d.word.isSome = true ∧ component.toList <:+ d.target

theorem occurs_iff {word cs : List Char} : occurs word cs = true ↔ word <:+: cs := by
  induction cs with
  | nil => rw [occurs, List.isEmpty_iff, List.infix_nil]
  | cons c cs ih => rw [occurs, Bool.or_eq_true, List.isPrefixOf_iff_prefix, ih,
      List.infix_cons_iff]

/-- A word is found on one side of a mark that it does not contain. -/
theorem infix_append_cons_iff {word cs ds : List Char} {mark : Char} (hne : word ≠ [])
    (hmark : mark ∉ word) : word <:+: cs ++ mark :: ds ↔ word <:+: cs ∨ word <:+: ds := by
  have hstarts : ∀ start, start <+: mark :: ds → start ≠ [] → mark ∈ start := by
    intro start hstart hsome
    obtain ⟨c, rest, rfl⟩ := List.exists_cons_of_ne_nil hsome
    rw [(List.cons_prefix_cons.mp hstart).1]
    exact List.mem_cons_self
  rw [List.infix_append_iff_ne_nil, List.infix_cons_iff]
  constructor
  · rintro (h | (h | h) | ⟨_, _, _, hsome, rfl, _, hstart⟩)
    · exact .inl h
    · exact absurd (hstarts word h hne) hmark
    · exact .inr h
    · exact absurd (List.mem_append_right _ (hstarts _ hstart hsome)) hmark
  · rintro (h | h)
    · exact .inl h
    · exact .inr (.inl (.inr h))

theorem infix_listing_iff {word : List Char} (hne : word ≠ []) (hcomma : ',' ∉ word)
    (ds : List TargetDirective) :
    word <:+: listing ds ↔ ∃ d ∈ ds, word <:+: d.text := by
  induction ds with
  | nil => simpa [listing] using hne
  | cons d ds ih =>
      cases ds with
      | nil => simp [listing]
      | cons e ds =>
          rw [List.exists_mem_cons_iff, ← ih, ← infix_append_cons_iff hne hcomma]
          rfl

/-- The name of a component and a sign of equality stand in the text of a directive exactly if
it has a level and its name ends with that of the component. -/
theorem infix_text_iff (name : List Char) (d : TargetDirective) :
    name ++ ['='] <:+: d.text ↔ d.word.isSome = true ∧ name <:+ d.target := by
  have htarget : '=' ∉ d.target := fun h => (d.isName '=' h).2.1 rfl
  have hmem : '=' ∈ name ++ ['='] := List.mem_append_right name (List.mem_singleton_self _)
  rw [TargetDirective.text]
  cases hword : d.word with
  | none => exact iff_of_false (fun h => htarget (h.subset hmem)) fun h =>
      absurd h.1 Bool.false_ne_true
  | some w =>
      have hw : '=' ∉ w := by
        intro h
        rcases LogLimit.isAlphanum_or_eq_of_granted? (d.isLevel w hword) '=' h with h | h
        · cases h
        · cases h
      have happend : d.target ++ '=' :: w = (d.target ++ ['=']) ++ w := by simp
      change name ++ ['='] <:+: d.target ++ '=' :: w ↔ _
      rw [happend, List.infix_append_iff_ne_nil, List.infix_concat_iff]
      constructor
      · rintro ((h | h) | h | ⟨front, back, _, hsome, hback, _, hstart⟩)
        · exact ⟨rfl, List.suffix_append_self_iff.mp h⟩
        · exact absurd (h.subset hmem) htarget
        · exact absurd (h.subset hmem) hw
        · have hend := congrArg List.getLast? hback
          rw [List.getLast?_concat, List.getLast?_append, List.getLast?_eq_some_getLast hsome,
            Option.some_or] at hend
          have hlast : '=' ∈ back := Option.some.inj hend ▸ List.getLast_mem hsome
          exact absurd (hstart.subset hlast) hw
      · rintro ⟨-, h⟩
        exact .inl (.inl (List.suffix_append_self_iff.mpr h))

/-! ## The components -/

theorem exists_mayStart_of_mem_components {c : String} (hc : c ∈ components) :
    ∃ b ∈ c.toList.head?, mayStart b = true := by
  have hstart : ∀ c ∈ components, c.toList.head?.any mayStart = true := by decide
  exact (Option.any_eq_true _ _).mp (hstart c hc)

theorem isName_of_mem_components {c : String} (hc : c ∈ components) :
    ∀ b ∈ c.toList, b ≠ ',' ∧ b ≠ '=' ∧ b ≠ '[' := by
  have hall : ∀ c ∈ components,
      (c.toList.all fun b => b ≠ ',' ∧ b ≠ '=' ∧ b ≠ '[') = true := by decide
  exact isName_of_all (hall c hc)

/-- No component has a name that begins with that of another one. -/
theorem eq_of_isPrefixOf :
    ∀ a ∈ components, ∀ b ∈ components, a.toList.isPrefixOf b.toList = true → a = b := by
  decide

/-- A component and a level, as a directive. -/
def ofComponent {component : String} (hcomponent : component ∈ components) {level : List Char}
    {limit : LogLimit} (hlevel : LogLimit.granted? level = some limit) : TargetDirective where
  target := component.toList
  word := some level
  limit := limit
  begins := exists_mayStart_of_mem_components hcomponent
  isName := isName_of_mem_components hcomponent
  isBare := nofun
  isLevel _ hw := Option.some.inj hw ▸ hlevel

theorem mentions_listing_iff {component : String} (hcomponent : component ∈ components)
    (ds : List TargetDirective) :
    mentions (listing ds) component = true ↔ Mentions ds component := by
  have hcomma : ',' ∉ component.toList ++ ['='] := by
    intro h
    rcases List.mem_append.mp h with h | h
    · exact (isName_of_mem_components hcomponent ',' h).1 rfl
    · cases List.mem_singleton.mp h
  rw [mentions, occurs_iff, infix_listing_iff (List.concat_ne_nil _ _) hcomma, Mentions]
  simp only [infix_text_iff]

/-- What the level adds to a list of directives. -/
def assigned (directives : List Char) (limit : LogLimit) (cs : List String) :
    List LogDirective :=
  (cs.filter fun c => !mentions directives c).map fun c => .plain (some c.toList) limit

theorem setLevels_eq {directives level : List Char} {limit : LogLimit} {cs : List String}
    (hlevel : LogLimit.granted? level = some limit) (hcs : ∀ c ∈ cs, c ∈ components)
    (f : LogFilter) :
    setLevels directives level cs f = ((assigned directives limit cs).foldl add f, none) := by
  induction cs generalizing f with
  | nil => rfl
  | cons c cs ih =>
      obtain ⟨hc, hcs⟩ := List.forall_mem_cons.mp hcs
      rw [setLevels, assigned, List.filter_cons]
      by_cases hmentions : mentions directives c = true
      · rw [if_pos hmentions, if_neg (by rw [hmentions]; decide)]
        exact ih hcs f
      · have hread : LogDirective.read (c.toList ++ '=' :: level) =
            .ok (.plain (some c.toList) limit) := (ofComponent hc hlevel).read_text
        rw [if_neg hmentions, if_pos (by rw [Bool.eq_false_iff.mpr hmentions]; rfl), hread]
        exact ih hcs _

theorem mem_assigned {directives : List Char} {limit : LogLimit} {d : LogDirective} :
    d ∈ assigned directives limit components ↔ ∃ c ∈ components,
      mentions directives c = false ∧ d = .plain (some c.toList) limit := by
  rw [assigned, List.mem_map]
  constructor
  · rintro ⟨c, hc, rfl⟩
    obtain ⟨hmem, hnone⟩ := List.mem_filter.mp hc
    exact ⟨c, hmem, by simpa using hnone, rfl⟩
  · rintro ⟨c, hmem, hnone, rfl⟩
    exact ⟨c, List.mem_filter.mpr ⟨hmem, by simpa using hnone⟩, rfl⟩

section SetUp

variable {ds : List TargetDirective} {directives level : Option String} {limit : LogLimit}
  {component : String}

theorem fields_of_mem_listed : ∀ d ∈ listed ds, d.fields = [] := by
  intro d hd
  cases ds with
  | nil =>
      obtain rfl := List.mem_singleton.mp hd
      rfl
  | cons e ds =>
      obtain ⟨e, -, rfl⟩ := List.mem_map.mp hd
      rfl

theorem fields_of_mem_assigned {text : List Char} :
    ∀ d ∈ assigned text limit components, d.fields = [] := by
  intro d hd
  obtain ⟨c, -, -, rfl⟩ := mem_assigned.mp hd
  rfl

theorem filter_setUp (hdirectives : (directives.getD "").toList = listing ds)
    (hlevel : LogLimit.granted? (level.getD Logging.standardLevel).toList = some limit) :
    (Logging.setUp directives level).filter =
      (listed ds ++ assigned (listing ds) limit components).foldl add ⟨[]⟩ := by
  rw [Logging.setUp, hdirectives]
  simp only [setLevels_eq hlevel fun c hc => hc]
  rw [ofText_listing, List.foldl_append]

/-- A component that the text mentions is let through as the list says, and any other one up to
the level. -/
theorem eventLimit_setUp (hdirectives : (directives.getD "").toList = listing ds)
    (hlevel : LogLimit.granted? (level.getD Logging.standardLevel).toList = some limit)
    (hcomponent : component ∈ components) (names : List String) :
    (Logging.setUp directives level).filter.eventLimit component names =
      if mentions (listing ds) component then (ofText (listing ds)).limit component
      else limit := by
  have hfields : ∀ d ∈ listed ds ++ assigned (listing ds) limit components, d.fields = [] :=
    List.forall_mem_append.mpr ⟨fields_of_mem_listed, fields_of_mem_assigned⟩
  rw [filter_setUp hdirectives hlevel]
  split_ifs with hmentions
  · rw [eventLimit_eq_limit (fields_of_mem_foldl_add hfields), List.foldl_append, ofText_listing]
    refine limit_foldl_add_of_not_covers fun d hd => ?_
    obtain ⟨c, hc, hnone, rfl⟩ := mem_assigned.mp hd
    rw [Bool.eq_false_iff]
    intro hcovers
    obtain rfl := eq_of_isPrefixOf c hc component hcomponent hcovers
    rw [hmentions] at hnone
    cases hnone
  · have hmem : plain (some component.toList) limit ∈
        ofTarget (some component.toList) (assigned (listing ds) limit components) :=
      mem_ofTarget.mpr
        ⟨mem_assigned.mpr ⟨component, hcomponent, Bool.eq_false_iff.mpr hmentions, rfl⟩, rfl⟩
    have hlast := List.getLast?_eq_some_getLast (List.ne_nil_of_mem hmem)
    obtain ⟨hd, -⟩ := mem_ofTarget.mp (List.mem_of_getLast? hlast)
    obtain ⟨c, -, -, hd⟩ := mem_assigned.mp hd
    rw [hd] at hlast
    refine (eventLimit_foldl_add hfields (d := .plain (some c.toList) limit) ?_ names).trans rfl
    rw [ofTarget_append, List.getLast?_append, hlast]
    rfl

/-! ## What the list says -/

/-- The directive that a list has for a component: the last one with the very name of it. -/
def ruling? (ds : List TargetDirective) (component : String) : Option TargetDirective :=
  (ds.filter fun d => d.target = component.toList).getLast?

/-- What is to be let through for a component: what the list says if it says something, and else
what the level says. -/
def dueLimit (ds : List TargetDirective) (limit : LogLimit) (component : String) : LogLimit :=
  ((ruling? ds component).map TargetDirective.limit).getD limit

theorem limit_of_ruling? {d : TargetDirective} (h : ruling? ds component = some d) :
    (ofText (listing ds)).limit component = d.limit := by
  have hsome : ds ≠ [] := by
    rintro rfl
    cases h
  have hlisted : listed ds = ds.map TargetDirective.directive := by
    cases ds with
    | nil => exact absurd rfl hsome
    | cons e ds => rfl
  have hlast : (ofTarget (some component.toList) (listed ds)).getLast? = some d.directive := by
    have hfilter : ofTarget (some component.toList) (listed ds) =
        (ds.filter fun d => d.target = component.toList).map TargetDirective.directive := by
      rw [hlisted, ofTarget, List.filter_map]
      refine congrArg (List.map _) (List.filter_congr fun e _ => ?_)
      exact decide_eq_decide.mpr Option.some_inj
    rw [hfilter, List.getLast?_map]
    exact congrArg (Option.map _) h
  rw [ofText_listing, ← eventLimit_eq_limit (fields_of_mem_foldl_add fields_of_mem_listed) []]
  exact eventLimit_foldl_add fields_of_mem_listed hlast []

/-- A component is let through as it is due exactly in these cases: the text mentions it, and the
list has a directive for it or gives the limit of the level in some other way; or the text does
not mention it, and the list has no directive for it or everything is let through anyway. -/
theorem eventLimit_eq_dueLimit_iff (hdirectives : (directives.getD "").toList = listing ds)
    (hlevel : LogLimit.granted? (level.getD Logging.standardLevel).toList = some limit)
    (hcomponent : component ∈ components) (names : List String) :
    (Logging.setUp directives level).filter.eventLimit component names =
        dueLimit ds limit component ↔
      (Mentions ds component → (ruling? ds component).isSome = true ∨
        (ofText (listing ds)).limit component = limit) ∧
      (¬ Mentions ds component → ruling? ds component = none ∨ limit = some .trace) := by
  rw [eventLimit_setUp hdirectives hlevel hcomponent, ← mentions_listing_iff hcomponent, dueLimit]
  split_ifs with hmentions
  · refine Iff.trans ?_ (and_iff_left fun hnot => absurd hmentions hnot).symm
    rw [imp_iff_right hmentions]
    cases hruling : ruling? ds component with
    | none => simp
    | some d => simp [limit_of_ruling? hruling]
  · refine Iff.trans ?_ (and_iff_right fun h => absurd h hmentions).symm
    rw [imp_iff_right hmentions]
    cases hruling : ruling? ds component with
    | none => simp
    | some d =>
        -- a directive with a level would have been mentioned
        obtain ⟨hd, htarget⟩ := List.mem_filter.mp (List.mem_of_getLast? hruling)
        have hbare : d.word = none := by
          rw [mentions_listing_iff hcomponent] at hmentions
          cases hword : d.word with
          | none => rfl
          | some w =>
              have hequal : d.target = component.toList := of_decide_eq_true htarget
              refine absurd ⟨d, hd, ?_, hequal ▸ List.suffix_rfl⟩ hmentions
              rw [hword, Option.isSome_some]
        have hlimit : d.limit = some .trace := (d.isBare hbare).2
        simp [hlimit]

end SetUp

/-- The name of a component alone, and another name that ends like that of a component. -/
def bareAndAlien : List TargetDirective :=
  [⟨"worker".toList, none, some .trace, ⟨'w', rfl, rfl⟩, isName_of_all rfl, fun _ => ⟨rfl, rfl⟩,
     nofun⟩,
   ⟨"spare_jobs".toList, some "debug".toList, some .debug, ⟨'s', rfl, rfl⟩, isName_of_all rfl,
     nofun, fun _ h => Option.some.inj h ▸ rfl⟩]

theorem eventLimit_eq_dueLimit_bareAndAlien :
    (Logging.setUp (some "worker,spare_jobs=debug") none).filter.eventLimit "protocol" [] =
      dueLimit bareAndAlien (some .info) "protocol" := by
  have hdirectives : ((some "worker,spare_jobs=debug").getD "").toList = listing bareAndAlien := rfl
  refine (eventLimit_eq_dueLimit_iff hdirectives rfl (by decide) []).mpr ⟨?_, ?_⟩
  · rw [← mentions_listing_iff (by decide)]
    decide
  · exact fun _ => .inl rfl

/-- The component that the list names is not let through as it is due, and neither is the one that
the text only seems to mention. -/
theorem eventLimit_ne_dueLimit :
    let directives := "worker,spare_jobs=debug"
    let filter := (Logging.setUp (some directives) (some "info")).filter
    let due := dueLimit bareAndAlien (some .info)
    directives.toList = listing bareAndAlien ∧
      filter.eventLimit "worker" [] = some .info ∧ due "worker" = some .trace ∧
      filter.eventLimit "jobs" [] = none ∧ due "jobs" = some .info := by
  decide +kernel

end LogFilter

end SyncLedger
