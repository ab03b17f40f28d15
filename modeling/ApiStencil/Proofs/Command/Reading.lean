import ApiStencil.Proofs.Command.Failure
import ApiStencil.Proofs.Disk.Repeat
import ApiStencil.Proofs.Disk.Rewritten

/-!
# Reading the inputs of a run again

A run reads its configuration, its document and its templates. If all below its output directory is
rewritten, it finds the same inputs again, as long as no path leads to them through what lies there:
then the same files are rendered. Nothing has to be known about the file in the default place of the
configuration, since the output directory cannot be there.

## Main definitions

* `Disk.InputsApart`: the inputs of a run lie apart from a directory
* `Disk.KeepsInputs`: the inputs of a run do not depend on what lies below its output directory

## Main results

* `Session.repeats_resolveConfig`, `Session.repeats_expandConfigured`, `Session.repeats_loadBundle`:
  what is read is read again
* `Session.answers_renderFiles`: the same files are rendered again
-/

namespace ApiStencil

namespace Disk

variable {disk next : Disk} {base : Location} {names : List String}

/-- The inputs of a run lie apart from a directory: the file of the configuration that is given and
the document lie outside, and neither the directory nor that of the templates lies in the other. -/
structure InputsApart (disk : Disk) (base : Location) (flags : Flags) (config : ProjectConfig) :
    Prop where
  configuration : ∀ path, flags.config = some path → disk.LiesOutside base path
  document : ∀ path, config.schema = some path → disk.LiesOutside base path
  templates : disk.LiesApart base config.templates

/-- The inputs of a run do not depend on what lies below its output directory: they lie apart from
it, and the same paths would lead to them if the directory were empty. -/
def KeepsInputs (disk : Disk) (base : Location) (flags : Flags) (config : ProjectConfig) : Prop :=
  (disk.prune base).InputsApart base flags config

/-! ## The default place of the configuration -/

theorem locate_defaultConfigPath (hhome : disk.at? disk.home = some .directory) :
    disk.locate defaultConfigPath = .ok (disk.home ++ [defaultConfigPath]) := by
  have hstart : disk.startOf defaultConfigPath = disk.home := startOf_of_relative (by decide)
  have hsegments : Path.segments defaultConfigPath = [defaultConfigPath] := by decide
  have hstep : disk.step disk.home defaultConfigPath = .ok (disk.home ++ [defaultConfigPath]) :=
    (step_eq_ok_iff_aimStep hhome (by decide)).mpr ⟨by decide +kernel, aimStep_of_ne (by decide)⟩
  refine follow_eq_ok_iff.mpr ⟨by decide, by decide, by decide +kernel, ?_⟩
  rw [hstart, hsegments, List.foldlM_cons, hstep]
  rfl

theorem kind?_defaultConfigPath_iff (hhome : disk.at? disk.home = some .directory) :
    disk.kind? defaultConfigPath = some .file ↔
      ∃ contents, disk.at? (disk.home ++ [defaultConfigPath]) = some (.file contents) := by
  have hlocate := locate_defaultConfigPath hhome
  rw [kind?_eq_some_iff]
  constructor
  · rintro ⟨contents | -, hfind, hkind⟩
    · obtain ⟨location, hfound, hat⟩ := find_eq_ok_iff.mp hfind
      obtain rfl := Except.ok.inj (hfound.symm.trans hlocate)
      exact ⟨contents, hat⟩
    · cases hkind
  · rintro ⟨contents, hat⟩
    exact ⟨.file contents, find_eq_ok_iff.mpr ⟨_, hlocate, hat⟩, rfl⟩

section Default

variable (hhome : disk.at? disk.home = some .directory) (hbase : base = disk.home ++ names)
  (hnames : names ≠ []) (h : disk.Rewritten base next)
include hhome hbase hnames h

/-- A file in the default place is not in the output directory. -/
theorem leadsPast_defaultConfigPath (hkind : disk.kind? defaultConfigPath = some .file) :
    disk.LeadsPast base defaultConfigPath := by
  have hout : ¬base <+: disk.home := hbase ▸ not_append_isPrefix hnames
  have hpruned : (disk.prune base).at? disk.home = some .directory := by
    rwa [at?_prune, if_neg fun hbelow => hout hbelow.1]
  refine ⟨disk.home ++ [defaultConfigPath], locate_defaultConfigPath hpruned, fun hp => ?_⟩
  obtain ⟨contents, hat⟩ := (kind?_defaultConfigPath_iff hhome).mp hkind
  rcases List.prefix_concat_iff.mp hp with heq | hp
  · exact h.unblocked base (List.prefix_refl _) contents (heq ▸ hat)
  · exact hout hp

/-- A run puts no file in the default place: its output directory could only take that place. -/
theorem kind?_defaultConfigPath_iff_of_rewritten :
    next.kind? defaultConfigPath = some .file ↔ disk.kind? defaultConfigPath = some .file := by
  have habove : disk.home <+: base := hbase ▸ List.prefix_append _ _
  have hhome' : next.at? next.home = some .directory := h.home ▸ h.above disk.home habove
  constructor
  · intro hkind
    obtain ⟨contents, hat⟩ := (kind?_defaultConfigPath_iff hhome').mp hkind
    rw [h.home] at hat
    have hup : ¬disk.home ++ [defaultConfigPath] <+: base := fun hp => by
      simp [h.above _ hp] at hat
    have hout : ¬base <+: disk.home ++ [defaultConfigPath] := fun hp => by
      rcases List.prefix_concat_iff.mp hp with heq | hp
      · exact hup (heq ▸ List.prefix_refl _)
      · exact not_append_isPrefix hnames (hbase ▸ hp)
    rw [h.outside _ hout hup] at hat
    exact (kind?_defaultConfigPath_iff hhome).mpr ⟨contents, hat⟩
  · intro hkind
    exact (leadsPast_defaultConfigPath hhome hbase hnames h hkind).kind?_eq_some h hkind

end Default

end Disk

namespace Session

variable {disk next : Disk} {base : Location} {names : List String} {flags : Flags}
  {config : ProjectConfig}

/-! ## The stages of a run -/

section Stages

variable (h : disk.Rewritten base next)
include h

theorem repeats_loadConfig {path : String} (hpast : disk.LeadsPast base path) :
    Repeats disk next
      (loadConfig path : ExceptT Fault (StateM Session) ProjectConfig) := by
  refine (repeats_read _ fun text => hpast.readText_eq_ok h).bind fun text => ?_
  refine (repeats_liftExcept _).bind fun config => ?_
  exact (repeats_report _).bind fun _ => repeats_pure _

theorem repeats_resolveConfig (hhome : disk.at? disk.home = some .directory)
    (hbase : base = disk.home ++ names) (hnames : names ≠ [])
    (hpast : ∀ path, flags.config = some path → disk.LeadsPast base path) :
    Repeats disk next (resolveConfig flags : ExceptT Fault (StateM Session) ProjectConfig) := by
  have hload : Repeats disk next (loadConfigOrDefault flags.config :
      ExceptT Fault (StateM Session) ProjectConfig) := by
    unfold loadConfigOrDefault
    cases hconfig : flags.config with
    | some path => exact repeats_loadConfig h (hpast path hconfig)
    | none =>
      have hiff := Disk.kind?_defaultConfigPath_iff_of_rewritten hhome hbase hnames h
      refine Repeats.observe_bind (by simp only [hiff]) ?_
      split_ifs with hkind
      · exact repeats_loadConfig h
          (Disk.leadsPast_defaultConfigPath hhome hbase hnames h hkind)
      · exact repeats_pure _
  exact hload.bind fun config => repeats_pure _

theorem repeats_readDocument
    (hpast : ∀ path, config.schema = some path → disk.LeadsPast base path) :
    Repeats disk next (readDocument config : ExceptT Fault (StateM Session) String) := by
  unfold readDocument
  cases hschema : config.schema with
  | none => exact repeats_throw _
  | some path =>
    have hpast := hpast path hschema
    have hread := repeats_read (.workspace <| .unreadableDocument ·) fun text =>
      hpast.readText_eq_ok h
    cases hkind : disk.kind? path with
    | none =>
      rintro session text last rfl hrun
      rw [run_bind, run_kind?, hkind] at hrun
      cases hrun
    | some kind =>
      have hkind' := hpast.kind?_eq_some h hkind
      refine Repeats.observe_bind (by simp only [hkind, hkind']) ?_
      rw [hkind]
      exact hread

theorem repeats_expandConfigured
    (hpast : ∀ path, config.schema = some path → disk.LeadsPast base path) :
    Repeats disk next (expandConfigured config : ExceptT Fault (StateM Session) SpelledApi) := by
  refine (repeats_readDocument h hpast).bind fun text => ?_
  exact (repeats_liftExcept _).bind fun document => repeats_replay _

theorem repeats_loadBundle {ρ : Type} [TemplateEngine ρ] {dir : String} (hwell : disk.WellFormed)
    (hapart : disk.LeadsApart base dir) :
    Repeats disk next (loadBundle dir : ExceptT Fault (StateM Session) ρ) := by
  by_cases hkind : disk.kind? dir = some .directory
  · have hdir := Disk.kind?_eq_directory_iff.mp hkind
    have hkind' := hapart.leadsPast.kind?_eq_some h hkind
    have hfiles := hapart.filesBelow_eq h hdir
    have hload : Repeats disk next (do
        let names ← filesBelow dir
        report (Log.loadingBundle dir names.length)
        let sources ← names.mapM (readTemplate dir)
        liftExcept (TemplateEngine.loadAll dir sources : Except Fault ρ)) := by
      refine Repeats.observe_bind (by simp only [hfiles]) ?_
      refine (repeats_report _).bind fun _ => Repeats.bind ?_ fun _ => repeats_liftExcept _
      refine Repeats.mapM fun name hname => ?_
      have hread := hapart.readText_join_eq h (hwell.descends_of_mem_filesBelow hname)
      exact (repeats_read _ fun text htext => hread.trans htext).bind fun text => repeats_pure _
    have hisDirectory : Repeats disk next
        (isDirectory dir : ExceptT Fault (StateM Session) Bool) :=
      Repeats.observe_bind (by simp only [hkind, hkind']) (repeats_pure _)
    refine hisDirectory.bind fun isDirectory => ?_
    split_ifs
    · exact (repeats_throw _).bind fun _ => hload
    · exact hload
  · rintro session bundle last rfl hrun
    have hfalse : session.run (isDirectory dir) = (.ok false, session) := by
      rw [isDirectory, run_bind, run_kind?]
      simp [hkind]
    rw [loadBundle, run_bind, hfalse] at hrun
    cases hrun

end Stages

/-- The same files are rendered again, with the same configuration. -/
theorem answers_renderFiles {ρ : Type} [TemplateEngine ρ] {session middle : Session}
    {files : List RenderedFile}
    (hwell : session.disk.WellFormed) (hbase : base = session.disk.home ++ names)
    (hnames : names ≠ []) (h : session.disk.Rewritten base next)
    (hinputs : session.disk.KeepsInputs base flags config)
    (hrender : session.run (renderFiles flags ρ) = (.ok (config, files), middle)) :
    Answers next (renderFiles flags ρ) (config, files) := by
  obtain ⟨resolved, first, hresolve, hrest⟩ := run_bind_eq_ok hrender
  obtain ⟨api, second, hexpand, hrest⟩ := run_bind_eq_ok hrest
  obtain ⟨bundle, third, hload, hrest⟩ := run_bind_eq_ok hrest
  obtain ⟨made, fourth, hgenerate, hdone⟩ := run_bind_eq_ok hrest
  cases hdone
  -- Each stage leaves the disk alone, so the next one starts from the same disk.
  obtain ⟨hfirst, hconfig⟩ := repeats_resolveConfig h hwell.home hbase hnames
    hinputs.configuration session config first rfl hresolve
  obtain ⟨hsecond, hapi⟩ :=
    repeats_expandConfigured h hinputs.document first api second hfirst hexpand
  obtain ⟨hthird, hbundle⟩ :=
    repeats_loadBundle h hwell hinputs.templates second bundle third hsecond hload
  obtain ⟨-, hfiles⟩ := repeats_replay _ third files _ hthird hgenerate
  exact hconfig.bind (hapi.bind (hbundle.bind (hfiles.bind (answers_pure _))))

end Session

end ApiStencil
