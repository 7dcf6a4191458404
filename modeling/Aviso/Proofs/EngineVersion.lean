import Aviso.Proofs.Answers
import Aviso.Proofs.Version

/-!
# Templates that need a later engine

A template names the least version of the engine that it needs.

* `Version.AfterEngine`: the versions that this engine does not serve, which are those of
  higher precedence, and its own with build metadata.
* `Template.needsLaterEngine_iff_afterEngine`: a template needs a later engine exactly if its
  least version is one of them.
* `Catalogue.render_afterEngine` says what it means for requests, and when two least versions
  that differ in their build metadata are treated differently.
-/

namespace Aviso

namespace Version

/-- The version of this engine. -/
def engine : Version where
  major := 1
  minor := 0
  patch := 0

theorem parse_engineVersion : parse engineVersion = .ok engine :=
  rfl

theorem valid_engine : engine.Valid :=
  (parse_eq_ok_iff.mp parse_engineVersion).1

/-- The version comes after that of this engine: its precedence is higher, or it is the version
of the engine with build metadata. -/
def AfterEngine (least : Version) : Prop :=
  engine.Precedes least ∨ (least.withoutBuild = engine ∧ least.build ≠ [])

section

variable {least other : Version}

theorem compare_engine_eq_lt_iff (hvalid : least.Valid) :
    engine.compare least = .lt ↔ least.AfterEngine := by
  have hengine : engine.withoutBuild = least.withoutBuild ↔ least.withoutBuild = engine := eq_comm
  rw [compare_eq_lt_iff valid_engine hvalid, hengine]
  exact or_congr_right (and_congr_right fun _ => compareLists_nil_eq_lt_iff)

theorem afterEngine_iff_of_eq (hvalid : least.Valid) (hsame : least.withoutBuild = engine) :
    least.AfterEngine ↔ least.build ≠ [] := by
  have hlevel : ¬ engine.Precedes least :=
    not_precedes_of_withoutBuild_eq valid_engine hvalid hsame.symm
  simp [AfterEngine, hlevel, hsame]

theorem afterEngine_iff_of_ne (hdifferent : least.withoutBuild ≠ engine) :
    least.AfterEngine ↔ engine.Precedes least := by
  simp [AfterEngine, hdifferent]

/-- Build metadata counts in one place only: on the version of the engine. -/
theorem afterEngine_iff_afterEngine (hleast : least.Valid) (hother : other.Valid)
    (hsame : other.withoutBuild = least.withoutBuild) :
    (least.AfterEngine ↔ other.AfterEngine) ↔
      (least.withoutBuild = engine → (least.build = [] ↔ other.build = [])) := by
  by_cases hengine : least.withoutBuild = engine
  · rw [afterEngine_iff_of_eq hleast hengine, afterEngine_iff_of_eq hother (hsame.trans hengine)]
    simp [hengine, not_iff_not]
  · have hdifferent : other.withoutBuild ≠ engine := fun h => hengine (hsame.symm.trans h)
    rw [afterEngine_iff_of_ne hengine, afterEngine_iff_of_ne hdifferent,
      precedes_congr_right hsame]
    simp [hengine]

end

end Version

open Version

theorem Template.needsLaterEngine_iff_afterEngine {template : Template} {least : Version}
    (hparse : parse template.engineMinVersion = .ok least) :
    template.NeedsLaterEngine ↔ least.AfterEngine := by
  have hvalid := (parse_eq_ok_iff.mp hparse).1
  rw [needsLaterEngine_iff parse_engineVersion hparse, compare_engine_eq_lt_iff hvalid]

namespace Catalogue

variable {catalogue : Catalogue} {id : String} {template : Template} {least : Version}

theorem render_eq_error_iff_afterEngine (hget : catalogue.get? id = some template)
    (hparse : parse template.engineMinVersion = .ok least) (request : Request)
    (error : RenderError) :
    catalogue.render id request = .error error ↔
      error = .engineTooOld template.version template.engineMinVersion ∧ least.AfterEngine := by
  rw [render_eq_error_iff hget, Template.needsLaterEngine_iff_afterEngine hparse, hparse]
  simp [and_comm]

theorem exists_render_iff_not_afterEngine (hget : catalogue.get? id = some template)
    (hparse : parse template.engineMinVersion = .ok least) (request : Request) :
    (∃ message, catalogue.render id request = .ok message) ↔ ¬ least.AfterEngine := by
  simp [render_eq_ok_iff hget, Template.needsLaterEngine_iff_afterEngine hparse, hparse]

/-- A template whose least version is valid is refused exactly if that version has a higher
precedence than the version of the engine, or is the version of the engine with build metadata,
and nothing else refuses it.  So two templates with least versions that differ in their build
metadata are accepted or refused alike, except where the versions are that of the engine and one
of them alone has build metadata. -/
theorem render_afterEngine (hget : catalogue.get? id = some template) (hvalid : least.Valid)
    (htext : template.engineMinVersion.toList = least.text) :
    (∀ request error, catalogue.render id request = .error error ↔
      error = .engineTooOld template.version template.engineMinVersion ∧
        (engine.Precedes least ∨ (least.withoutBuild = engine ∧ least.build ≠ []))) ∧
    (∀ request, (∃ message, catalogue.render id request = .ok message) ↔
      ¬ (engine.Precedes least ∨ (least.withoutBuild = engine ∧ least.build ≠ []))) ∧
    ∀ (others : Catalogue) otherId (other : Template) (otherLeast : Version),
      others.get? otherId = some other → otherLeast.Valid →
      other.engineMinVersion.toList = otherLeast.text →
      otherLeast.withoutBuild = least.withoutBuild →
      ∀ request otherRequest,
        ((∃ message, catalogue.render id request = .ok message) ↔
          ∃ message, others.render otherId otherRequest = .ok message) ↔
        (least.withoutBuild = engine → (least.build = [] ↔ otherLeast.build = [])) := by
  have hparse : parse template.engineMinVersion = .ok least := parse_eq_ok_iff.mpr ⟨hvalid, htext⟩
  refine ⟨render_eq_error_iff_afterEngine hget hparse,
    exists_render_iff_not_afterEngine hget hparse, ?_⟩
  intro others otherId other otherLeast hother hvalidOther htextOther hsame request otherRequest
  have hparseOther : parse other.engineMinVersion = .ok otherLeast :=
    parse_eq_ok_iff.mpr ⟨hvalidOther, htextOther⟩
  rw [exists_render_iff_not_afterEngine hget hparse,
    exists_render_iff_not_afterEngine hother hparseOther, not_iff_not,
    afterEngine_iff_afterEngine hvalid hvalidOther hsame]

/-- A candidate of the engine, with build metadata and without, is no later version. -/
theorem render_afterEngine_candidate :
    let least : Version := { engine with preRelease := ["rc", "1"] }
    let built : Version := { least with build := ["5"] }
    let template := { Template.plain "t" "[BASE]x[FIN]" with engineMinVersion := "1.0.0-rc.1" }
    let other := { Template.plain "u" "[BASE]x[FIN]" with engineMinVersion := "1.0.0-rc.1+5" }
    let catalogue := ofList [template, other]
    catalogue.get? "t" = some template ∧ catalogue.get? "u" = some other ∧
      (least.Valid ∧ template.engineMinVersion.toList = least.text) ∧
      (built.Valid ∧ other.engineMinVersion.toList = built.text) ∧
      least.Precedes engine ∧ built.withoutBuild = least.withoutBuild ∧
      (∃ message, catalogue.render "t" {} = .ok message) ∧
      ∃ message, catalogue.render "u" {} = .ok message := by
  intro least built template other catalogue
  have htemplate : catalogue.get? "t" = some template := by decide
  have hother : catalogue.get? "u" = some other := by decide
  have hleast : least.Valid ∧ template.engineMinVersion.toList = least.text :=
    parse_eq_ok_iff.mp (by decide)
  have hbuilt : built.Valid ∧ other.engineMinVersion.toList = built.text :=
    parse_eq_ok_iff.mp (by decide)
  have hless : least.Precedes engine :=
    .preRelease rfl rfl rfl ⟨List.cons_ne_nil _ _, .inl rfl⟩
  have hlevel : ¬ engine.Precedes least := by
    simp [precedes_iff, PreReleasePrecedes, engine, least]
  have hdifferent : least.withoutBuild ≠ engine := by decide
  obtain ⟨_, haccepted, halike⟩ := render_afterEngine htemplate hleast.1 hleast.2
  have hrender : ∃ message, catalogue.render "t" {} = .ok message := by
    rw [haccepted]
    simp [hlevel, hdifferent]
  have hboth := (halike catalogue "u" other built hother hbuilt.1 hbuilt.2 rfl {} {}).mpr
    fun hsame => absurd hsame hdifferent
  exact ⟨htemplate, hother, hleast, hbuilt, hless, rfl, hrender, hboth.mp hrender⟩

/-- The version of the engine with build metadata has no higher precedence than the version of
the engine.  A template that needs it is refused, and one that needs the latter is not. -/
theorem render_refuses_build :
    let built : Version := { engine with build := ["x"] }
    let template := Template.plain "t" "[BASE]x[FIN]"
    let other := { template with engineMinVersion := "1.0.0+x" }
    (built.Valid ∧ other.engineMinVersion.toList = built.text) ∧
      template.engineMinVersion.toList = engine.text ∧
      ¬ engine.Precedes built ∧ built.withoutBuild = engine.withoutBuild ∧
      (ofList [other]).get? "t" = some other ∧
      (ofList [other]).render "t" {} = .error (.engineTooOld "1.0.0" "1.0.0+x") ∧
      (ofList [template]).get? "t" = some template ∧
      ∃ message, (ofList [template]).render "t" {} = .ok message := by
  intro built template other
  have hbuilt : parse other.engineMinVersion = .ok built := by decide
  have hengine : parse template.engineMinVersion = .ok engine := parse_engineVersion
  have hvalid := parse_eq_ok_iff.mp hbuilt
  have hlater : built.AfterEngine :=
    (afterEngine_iff_of_eq hvalid.1 rfl).mpr (List.cons_ne_nil _ _)
  have hserved : ¬ engine.AfterEngine := by
    rw [afterEngine_iff_of_eq valid_engine rfl]
    exact fun hbuild => hbuild rfl
  have hother : (ofList [other]).get? "t" = some other := by decide
  have htemplate : (ofList [template]).get? "t" = some template := by decide
  exact ⟨hvalid, (parse_eq_ok_iff.mp hengine).2,
    not_precedes_of_withoutBuild_eq valid_engine hvalid.1 rfl, rfl, hother,
    (render_eq_error_iff_afterEngine hother hbuilt {} _).mpr ⟨rfl, hlater⟩, htemplate,
    (exists_render_iff_not_afterEngine htemplate hengine {}).mpr hserved⟩

end Catalogue

end Aviso
