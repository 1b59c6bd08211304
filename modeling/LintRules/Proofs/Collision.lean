import LintRules.Proofs.Delivery
import LintRules.Proofs.Interleaving
import LintRules.Proofs.Path
import LintRules.Proofs.Registry

/-!
# Rules under one text

A registry knows a rule by the text of its key, in which a bundle and a rule in it are joined by a
slash.  Two keys collide when they have one text.  A name that has the shape of a plugin's rule is
never loaded as a rule of its own, and this is what keeps rules of bundles apart from all others,
but for bundles and rules with names of a few odd shapes.

* `RuleKey.MayBeFlat`: the keys of bundles that collide with a key without a bundle.
* `RuleKey.text_eq_text_iff`: keys of bundles whose names have no slash collide only if they agree.
* `Loader.loadConfig_collisions`: the collisions in one load, and what a registry makes of them.
-/

namespace LintRules

/-! ## Texts of keys -/

namespace RuleKey

/-- A key of a bundle whose text may be the name of a rule without a bundle: the bundle has no name
or begins with a slash, or the rule has no name. -/
def MayBeFlat (key : RuleKey) : Prop :=
  ∃ bundle, key.bundle? = some bundle ∧
    (bundle = "" ∨ Text.beginsWith "/" bundle = true ∨ key.rule = "")

theorem text_of_bundle? {key : RuleKey} {bundle : String} (h : key.bundle? = some bundle) :
    key.text = bundle ++ "/" ++ key.rule := by
  cases key with
  | flat rule => cases h
  | preset name rule => rw [← Option.some.inj h]; rfl
  | plugin name rule => rw [← Option.some.inj h]; rfl

/-- A bundle and a rule with names of the usual shape have the text of a plugin's rule. -/
theorem isPluginRuleName_text {key : RuleKey} {bundle : String} (h : key.bundle? = some bundle)
    (hkey : ¬ key.MayBeFlat) : isPluginRuleName key.text = true := by
  have hodd : bundle ≠ "" ∧ Text.beginsWith "/" bundle ≠ true ∧ key.rule ≠ "" := by
    refine ⟨fun hb => hkey ⟨bundle, h, Or.inl hb⟩, fun hb => hkey ⟨bundle, h, Or.inr (Or.inl hb)⟩,
      fun hr => hkey ⟨bundle, h, Or.inr (Or.inr hr)⟩⟩
  obtain ⟨hbundle, hlead, hrule⟩ := hodd
  rw [text_of_bundle? h]
  by_cases hslash : '/' ∈ bundle.toList
  · -- the first slash of the text is one of the bundle
    obtain ⟨before, after, hsplit, hbefore⟩ := List.eq_append_cons_of_mem hslash
    have hname : bundle = String.ofList before ++ "/" ++ String.ofList after := by
      rw [← String.toList_inj, hsplit]
      simp only [String.toList_append, String.toList_ofList, List.append_assoc]
      rfl
    rw [isPluginRuleName_iff]
    refine ⟨String.ofList before, String.ofList after ++ "/" ++ key.rule, ?_, ?_, ?_, ?_⟩
    · intro hempty
      rw [hempty, String.empty_append] at hname
      exact hlead (Text.beginsWith_iff.mpr ⟨_, hname⟩)
    · rwa [String.toList_ofList]
    · simp [String.ext_iff]
    · rw [hname, String.append_assoc, String.append_assoc, String.append_assoc,
        String.append_assoc, String.append_assoc]
  · exact isPluginRuleName_iff.mpr ⟨bundle, key.rule, hbundle, hslash, hrule, rfl⟩

/-- **Keys of bundles** whose names have no slash have one text only if bundle and rule agree. -/
theorem text_eq_text_iff {key other : RuleKey} {bundle bundle' : String}
    (h : key.bundle? = some bundle) (h' : other.bundle? = some bundle')
    (hslash : '/' ∉ bundle.toList) (hslash' : '/' ∉ bundle'.toList) :
    key.text = other.text ↔ bundle = bundle' ∧ key.rule = other.rule := by
  have hsplit : ∀ {b r : String}, '/' ∉ b.toList →
      Text.splitAtFirst? '/' (b ++ "/" ++ r) = some (b, r) :=
    fun hb => Text.splitAtFirst?_eq_some_iff.mpr ⟨rfl, hb⟩
  rw [text_of_bundle? h, text_of_bundle? h']
  constructor
  · intro htext
    have hpair := hsplit (r := key.rule) hslash
    rw [htext, hsplit hslash'] at hpair
    obtain ⟨hb, hr⟩ := Prod.mk.inj (Option.some.inj hpair)
    exact ⟨hb.symm, hr.symm⟩
  · rintro ⟨rfl, hrule⟩
    rw [hrule]

end RuleKey

/-! ## The rules of a load -/

namespace RuleDirectory

/-- The rules of a directory are named like files, without slashes. -/
theorem slash_notMem_of_mem_keys {files : Files} {directory : Path} {result : DirectoryScan}
    (h : scan files directory = .ok result) {name : String} (hname : name ∈ result.rules.keys) :
    '/' ∉ name.toList := by
  rw [scan] at h
  split at h
  · cases h
  · next names hnames =>
    rw [← Except.ok.inj h] at hname
    generalize ruleFiles files directory names = paths at hname
    induction paths using List.reverseRecOn with
    | nil => exact absurd hname List.not_mem_nil
    | append_singleton paths path ih =>
      rw [List.foldl_append, List.foldl_cons, List.foldl_nil, enter] at hname
      split at hname
      · exact ih hname
      · next stem hstem =>
        split at hname
        · rw [Table.keys_insert] at hname
          split at hname
          · exact ih hname
          · rcases List.mem_append.mp hname with hname | hname
            · exact ih hname
            · rw [List.mem_singleton.mp hname]
              exact Path.slash_notMem_stem hstem
        · exact ih hname

end RuleDirectory

namespace Loader

/-- The loader of a config whose rule directories are directories of files. -/
def ofFiles (config : Config) (source : PackageSource) (files : Files) : Loader :=
  ⟨config, source, RuleDirectory.scanner files⟩

/-- Every event of a load is delivered by an item. -/
theorem exists_item_of_mem_events {loader : Loader} {event : LoadEvent}
    (h : event ∈ loader.loadConfig.events) :
    ∃ item ∈ loader.config.items, ∃ events, loader.Delivers item events ∧ event ∈ events := by
  have hblocks : ∀ {items blocks}, List.Forall₂ loader.Delivers items blocks →
      event ∈ blocks.flatten →
      ∃ item ∈ items, ∃ events, loader.Delivers item events ∧ event ∈ events := by
    intro items blocks hall hevent
    obtain ⟨events, hevents, hmem⟩ := List.mem_flatten.mp hevent
    obtain ⟨item, hitem, hdelivers⟩ := exists_of_mem_right hall hevents
    exact ⟨item, hitem, events, hdelivers, hmem⟩
  rcases loader.forall_delivers_or_first_fails loader.config.items with
    ⟨blocks, hall⟩ | ⟨before, item, after, blocks, e, hitems, hbefore, hitem⟩
  · rw [(Script.outcome_eq_iff.mp (outcome_loadConfig_of_delivers hall)).1] at h
    exact hblocks hall h
  · rw [(Script.outcome_eq_iff.mp (outcome_loadConfig_of_fails hitems hbefore hitem)).1] at h
    obtain ⟨item', hitem', hevents⟩ := hblocks hbefore h
    exact ⟨item', by rw [hitems]; exact List.mem_append_left _ hitem', hevents⟩

/-- The rules of a directory have no bundle, and names without slashes. -/
theorem rule_of_delivers_directory {config : Config} {source : PackageSource} {files : Files}
    {path : Path} {events : List LoadEvent} {key : RuleKey} {handler : Handler}
    (h : (ofFiles config source files).Delivers (.directory path) events)
    (hmem : .rule key handler ∈ events) : ∃ name, key = .flat name ∧ '/' ∉ name.toList := by
  cases h with
  | @directory path log scan hscan =>
    have hok : RuleDirectory.scan files path = .ok scan := by
      rw [show (ofFiles config source files).scanner path = RuleDirectory.scanner files path
        from rfl, RuleDirectory.scanner] at hscan
      split at hscan
      · next result hresult => rw [hresult, (Prod.mk.inj hscan).2]
      · cases (Prod.mk.inj hscan).2
    rcases List.mem_append.mp hmem with hmem | hmem
    · obtain ⟨entry, hentry, hevent⟩ := List.mem_map.mp hmem
      obtain ⟨rfl, -⟩ := LoadEvent.rule.inj hevent
      exact ⟨entry.1, rfl,
        RuleDirectory.slash_notMem_of_mem_keys hok (List.mem_map_of_mem hentry)⟩
    · obtain ⟨failure, -, hevent⟩ := List.mem_map.mp hmem
      cases hevent

/-- **A rule without a bundle** never has the name of a plugin's rule. -/
theorem isPluginRuleName_of_flat {config : Config} {source : PackageSource} {files : Files}
    {name : String} {handler : Handler}
    (h : .rule (.flat name) handler ∈ (ofFiles config source files).loadConfig.events) :
    isPluginRuleName name = false := by
  obtain ⟨item, -, events, hdelivers, hmem⟩ := exists_item_of_mem_events h
  cases item with
  | directory path =>
    obtain ⟨name', hname, hslash⟩ := rule_of_delivers_directory hdelivers hmem
    rw [RuleKey.flat.inj hname]
    exact isPluginRuleName_eq_false hslash
  | rule ref =>
    cases hdelivers with
    | skippedRule hshape => exact absurd hmem List.not_mem_nil
    | rule hshape hexports =>
      obtain ⟨hkey, -⟩ := LoadEvent.rule.inj (List.mem_singleton.mp hmem)
      rw [RuleKey.flat.inj hkey]
      exact hshape
  | preset ref =>
    cases hdelivers with
    | skippedPreset hshape => exact absurd hmem List.not_mem_nil
    | preset hshape hexports =>
      obtain ⟨entry, -, hevent⟩ := List.mem_map.mp hmem
      cases hevent
  | plugin ref =>
    cases hdelivers with
    | processorPlugin hexports =>
      obtain ⟨processor, -, hevent⟩ := List.mem_map.mp hmem
      cases hevent
    | plugin hexports =>
      rcases List.mem_append.mp hmem with hmem | hmem
      · obtain ⟨entry, -, hevent⟩ := List.mem_map.mp hmem
        cases hevent
      · obtain ⟨processor, -, hevent⟩ := List.mem_map.mp hmem
        cases hevent

end Loader

/-! ## What a registry makes of collisions -/

/-- Whether an event announces a rule of a preset or a plugin. -/
def LoadEvent.isBundled : LoadEvent → Bool
  | .rule key _ => key.bundle?.isSome
  | .processor .. | .failure _ => false

/-- Only events with an id decide what a registry has under it. -/
theorem last?_definedRule?_filter {id : String} {events : List LoadEvent} {keep : LoadEvent → Bool}
    (h : ∀ key handler, .rule key handler ∈ events → key.text = id →
      keep (.rule key handler) = true) :
    Entries.last? id ((events.filter keep).filterMap (·.definedRule?)) =
      Entries.last? id (events.filterMap (·.definedRule?)) := by
  induction events with
  | nil => rfl
  | cons event rest ih =>
    have hrest := ih fun key handler hmem => h key handler (List.mem_cons_of_mem _ hmem)
    rcases hdefined : event.definedRule? with _ | ⟨key, handler⟩
    · rw [List.filterMap_cons_none hdefined, ← hrest, List.filter_cons]
      split
      · rw [List.filterMap_cons_none hdefined]
      · rfl
    · rw [List.filterMap_cons_some hdefined, Entries.last?_cons, ← hrest, List.filter_cons]
      split
      · rw [List.filterMap_cons_some hdefined, Entries.last?_cons]
      · next hdrop =>
        have hother : key ≠ id := by
          rintro rfl
          cases event with
          | rule key' handler' =>
            obtain ⟨hkey, -⟩ := Prod.mk.inj (Option.some.inj hdefined)
            exact hdrop (h key' handler' (List.mem_cons_self ..) hkey)
          | processor name processor => cases hdefined
          | failure error => cases hdefined
        rw [if_neg hother, Option.or_none]

theorem RuleRegistry.get?_hearAll (events : List LoadEvent) (id : String) :
    (listener.hearAll events {}).1.get? id =
      Entries.last? id (events.filterMap (·.definedRule?)) := by
  rw [listener, Listener.hearAll_accepting, foldl_enter, get?, Table.get?_extend]
  exact Option.or_none

namespace Loader

variable {config : Config} {source : PackageSource} {files : Files} {key : RuleKey}
  {handler : Handler} {seen : List LoadEvent}

/-- Only odd keys of bundles collide with a rule without a bundle. -/
theorem mayBeFlat_of_text_eq {name : String}
    (h : .rule (.flat name) handler ∈ (ofFiles config source files).loadConfig.events)
    (hkey : key.bundle?.isSome = true) (htext : key.text = name) : key.MayBeFlat := by
  obtain ⟨bundle, hbundle⟩ := Option.isSome_iff_exists.mp hkey
  by_contra hodd
  have hshape := RuleKey.isPluginRuleName_text hbundle hodd
  rw [htext, isPluginRuleName_of_flat h] at hshape
  cases hshape

/-- Rules without a bundle do not count for a rule of a bundle. -/
theorem get?_filter_isBundled (hseen : seen <+: (ofFiles config source files).loadConfig.events)
    (hkey : key.bundle?.isSome = true) (hodd : ¬ key.MayBeFlat) :
    (RuleRegistry.listener.hearAll seen {}).1.get? key.text =
      (RuleRegistry.listener.hearAll (seen.filter (·.isBundled)) {}).1.get? key.text := by
  rw [RuleRegistry.get?_hearAll, RuleRegistry.get?_hearAll]
  refine (last?_definedRule?_filter fun other handler' hother htext => ?_).symm
  cases other with
  | flat name =>
    exact absurd (mayBeFlat_of_text_eq (hseen.subset hother) hkey htext.symm) hodd
  | preset bundle rule => rfl
  | plugin bundle rule => rfl

/-- Rules of bundles do not count for a rule without a bundle, unless their keys are odd. -/
theorem get?_filter_not_isBundled
    (hseen : seen <+: (ofFiles config source files).loadConfig.events)
    (hmem : .rule key handler ∈ seen) (hkey : key.bundle? = none)
    (hodd : ∀ other handler', .rule other handler' ∈ seen → other.text = key.text →
      ¬ other.MayBeFlat) :
    (RuleRegistry.listener.hearAll seen {}).1.get? key.text =
      (RuleRegistry.listener.hearAll (seen.filter (!·.isBundled)) {}).1.get? key.text := by
  rw [RuleRegistry.get?_hearAll, RuleRegistry.get?_hearAll]
  refine (last?_definedRule?_filter fun other handler' hother htext => ?_).symm
  cases key with
  | flat name =>
    rcases hbundle : other.bundle? with _ | bundle
    · simp [LoadEvent.isBundled, hbundle]
    · have hsome : other.bundle?.isSome = true := Option.isSome_iff_exists.mpr ⟨bundle, hbundle⟩
      exact absurd (mayBeFlat_of_text_eq (hseen.subset hmem) hsome htext)
        (hodd other handler' hother htext)
  | preset bundle rule => cases hkey
  | plugin bundle rule => cases hkey

/-- **Collisions in one load.**  A rule without a bundle has the text of a rule in a bundle only if
that is a `RuleKey.MayBeFlat`, and a rule of a directory never has.  Rules of bundles whose names
have no slash collide only if bundle and rule agree.

So but for those keys, a registry has under the text of a rule what it would have if there were no
other rules than those of bundles, or no rules of bundles, at every moment of the load. -/
theorem loadConfig_collisions (config : Config) (source : PackageSource) (files : Files) :
    (∀ name handler (key : RuleKey),
      .rule (.flat name) handler ∈ (ofFiles config source files).loadConfig.events →
        key.bundle?.isSome = true → key.text = name → key.MayBeFlat) ∧
    (∀ path events key handler (other : RuleKey),
      (ofFiles config source files).Delivers (.directory path) events →
        .rule key handler ∈ events → other.bundle?.isSome = true → key.text ≠ other.text) ∧
    (∀ (key other : RuleKey) bundle bundle', key.bundle? = some bundle →
      other.bundle? = some bundle' → '/' ∉ bundle.toList → '/' ∉ bundle'.toList →
        (key.text = other.text ↔ bundle = bundle' ∧ key.rule = other.rule)) ∧
    ∀ seen key handler, seen <+: (ofFiles config source files).loadConfig.events →
      .rule key handler ∈ seen →
        (key.bundle?.isSome = true → ¬ key.MayBeFlat →
          (RuleRegistry.listener.hearAll seen {}).1.get? key.text =
            (RuleRegistry.listener.hearAll (seen.filter (·.isBundled)) {}).1.get? key.text) ∧
        (key.bundle? = none →
          (∀ other handler', .rule other handler' ∈ seen → other.text = key.text →
            ¬ other.MayBeFlat) →
          (RuleRegistry.listener.hearAll seen {}).1.get? key.text =
            (RuleRegistry.listener.hearAll (seen.filter (!·.isBundled)) {}).1.get? key.text) := by
  refine ⟨fun name handler key => mayBeFlat_of_text_eq, ?_,
    fun key other bundle bundle' => RuleKey.text_eq_text_iff, ?_⟩
  · intro path events key handler other hdelivers hmem hother htext
    obtain ⟨name, rfl, hslash⟩ := rule_of_delivers_directory hdelivers hmem
    obtain ⟨bundle, hbundle⟩ := Option.isSome_iff_exists.mp hother
    rw [RuleKey.text_flat] at htext
    rw [htext, RuleKey.text_of_bundle? hbundle] at hslash
    exact hslash (by simp)
  · exact fun seen key handler hseen hmem =>
      ⟨get?_filter_isBundled hseen, get?_filter_not_isBundled hseen hmem⟩

end Loader
end LintRules
