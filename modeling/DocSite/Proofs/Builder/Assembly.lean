import Mathlib.Tactic.Common
import DocSite.Site.Builder

/-!
# What calls put together

A sequence of calls is taken apart field by field. The description, the
address and the base are what the last call for them says; the packages,
the social links and the sidebar are what all calls for them add, in their
order (`assemble_eq`).

No call reaches a field other than its own (`Call.reaches`), so it does not
matter how calls for different fields are mixed. `SameByField` relates the
sequences that have the same calls for each field, and `build_of_calls` says
that nothing more is needed to build the same configuration.
-/

namespace DocSite.Builder

/-- **The fields that calls can reach.** -/
inductive Field where
  /-- The description. -/
  | description
  /-- The address. -/
  | site
  /-- The base path. -/
  | base
  /-- The packages. -/
  | packages
  /-- The social links. -/
  | social
  /-- The sidebar. -/
  | sidebar
deriving DecidableEq

namespace Call

/-- The field that a call is for. -/
def field : Call → Field
  | .description _ => .description
  | .site _ => .site
  | .base _ => .base
  | .package _ => .packages
  | .social _ => .social
  | .entry _ => .sidebar
  | .entries _ => .sidebar

/-- The description that a call gives, if it is for one. -/
def descriptions : Call → List String
  | .description text => [text]
  | _ => []

/-- The address that a call gives, if it is for one. -/
def sites : Call → List String
  | .site address => [address]
  | _ => []

/-- The base path that a call gives, if it is for one. -/
def bases : Call → List String
  | .base path => [path]
  | _ => []

/-- The packages that a call gives. -/
def packages : Call → List String
  | .package name => [name]
  | _ => []

/-- The social links that a call gives. -/
def links : Call → List SocialLink
  | .social link => [link]
  | _ => []

/-- The entries of the sidebar that a call gives. -/
def sidebar : Call → List Entry
  | .entry e => [e]
  | .entries es => es
  | _ => []

/-- **One call** sets or adds what it gives, and leaves everything else as
it was. -/
theorem apply_eq (config : SiteConfig) (call : Call) :
    call.apply config = { config with
      description := call.descriptions.getLast?.or config.description
      site := call.sites.getLast?.or config.site
      base := call.bases.getLast?.or config.base
      packages := config.packages ++ call.packages
      social := config.social ++ call.links
      sidebar := config.sidebar ++ call.sidebar } := by
  cases call <;> simp [apply, descriptions, sites, bases, packages, links, sidebar]

/-- **A call reaches its own field and no other.** -/
theorem reaches (call : Call) :
    (call.descriptions ≠ [] → call.field = .description) ∧ (call.sites ≠ [] → call.field = .site)
      ∧ (call.bases ≠ [] → call.field = .base) ∧ (call.packages ≠ [] → call.field = .packages)
      ∧ (call.links ≠ [] → call.field = .social) ∧ (call.sidebar ≠ [] → call.field = .sidebar) := by
  cases call <;> simp [field, descriptions, sites, bases, packages, links, sidebar]

end Call

/-! ## All calls, field by field -/

/-- **Calls on a configuration**, whatever it is. -/
theorem foldl_apply (calls : List Call) (config : SiteConfig) :
    calls.foldl Call.apply config = { config with
      description := (calls.flatMap Call.descriptions).getLast?.or config.description
      site := (calls.flatMap Call.sites).getLast?.or config.site
      base := (calls.flatMap Call.bases).getLast?.or config.base
      packages := config.packages ++ calls.flatMap Call.packages
      social := config.social ++ calls.flatMap Call.links
      sidebar := config.sidebar ++ calls.flatMap Call.sidebar } := by
  induction calls generalizing config with
  | nil => simp
  | cons call calls ih =>
    rw [List.foldl_cons, ih, Call.apply_eq]
    simp only [List.flatMap_cons, List.getLast?_append, List.append_assoc, Option.or_assoc]

/-- **What calls put together**: the last of what is set, and all of what is
added. -/
theorem assemble_eq (title : String) (calls : List Call) :
    assemble title calls = {
      title
      description := (calls.flatMap Call.descriptions).getLast?
      site := (calls.flatMap Call.sites).getLast?
      base := (calls.flatMap Call.bases).getLast?
      packages := calls.flatMap Call.packages
      social := calls.flatMap Call.links
      sidebar := calls.flatMap Call.sidebar } := by
  rw [assemble, foldl_apply]
  simp

/-- **Entries may be added one by one.** -/
theorem assemble_entries (title : String) (before after : List Call) (entries : List Entry) :
    assemble title (before ++ entries.map .entry ++ after)
      = assemble title (before ++ .entries entries :: after) := by
  have hone : ∀ config : SiteConfig, (entries.map Call.entry).foldl Call.apply config
      = Call.apply config (.entries entries) := by
    induction entries with
    | nil => simp [Call.apply]
    | cons e entries ih => simp [ih, Call.apply]
  rw [assemble, assemble, List.foldl_append, List.foldl_append, List.foldl_append, List.foldl_cons,
    hone]

/-! ## How calls may be mixed -/

/-- **The same calls for each field**, in the same order. -/
def SameByField (calls others : List Call) : Prop :=
  ∀ field, calls.filter (·.field = field) = others.filter (·.field = field)

variable {α : Type}

/-- What is given for a field is given by the calls for it. -/
theorem flatMap_filter_field {field : Field} {given : Call → List α}
    (hgiven : ∀ call, given call ≠ [] → call.field = field) (calls : List Call) :
    (calls.filter (·.field = field)).flatMap given = calls.flatMap given := by
  induction calls with
  | nil => rfl
  | cons call calls ih =>
    rw [List.flatMap_cons, ← ih]
    by_cases hcall : call.field = field
    · rw [List.filter_cons_of_pos (by simpa using hcall), List.flatMap_cons]
    · have hnone : given call = [] := by
        by_contra hsome
        exact hcall (hgiven call hsome)
      rw [List.filter_cons_of_neg (by simpa using hcall), hnone, List.nil_append]

/-- **Calls may be mixed at will**, as long as those for the same field stay
in order. -/
theorem SameByField.assemble_eq {calls others : List Call} (h : SameByField calls others)
    (title : String) : assemble title calls = assemble title others := by
  have hsame : ∀ {α : Type} (field : Field) {given : Call → List α},
      (∀ call, given call ≠ [] → call.field = field) → calls.flatMap given = others.flatMap given := by
    intro α field given hgiven
    rw [← flatMap_filter_field hgiven calls, h field, flatMap_filter_field hgiven others]
  rw [Builder.assemble_eq, Builder.assemble_eq,
    hsame .description fun call => call.reaches.1, hsame .site fun call => call.reaches.2.1,
    hsame .base fun call => call.reaches.2.2.1, hsame .packages fun call => call.reaches.2.2.2.1,
    hsame .social fun call => call.reaches.2.2.2.2.1,
    hsame .sidebar fun call => call.reaches.2.2.2.2.2]

/-! ## Building -/

theorem build_eq_ok_iff {title : String} {calls : List Call} {config : SiteConfig} :
    build title calls = .ok config
      ↔ config = assemble title calls ∧ (assemble title calls).report.errors = [] := by
  unfold build Report.passes
  dsimp only
  split
  · next hpasses => simp [List.isEmpty_iff.mp hpasses, eq_comm]
  · next hfails => simp [mt List.isEmpty_iff.mpr hfails]

theorem build_eq_error_iff {title : String} {calls : List Call} {report : Report} :
    build title calls = .error report
      ↔ report = (assemble title calls).report ∧ report.errors ≠ [] := by
  unfold build Report.passes
  dsimp only
  split
  · next hpasses =>
    have hnone : (assemble title calls).report.errors = [] := List.isEmpty_iff.mp hpasses
    simp only [reduceCtorEq, false_iff, not_and, not_not]
    rintro rfl
    exact hnone
  · next hfails =>
    have hsome : (assemble title calls).report.errors ≠ [] := mt List.isEmpty_iff.mpr hfails
    rw [Except.error.injEq]
    exact ⟨fun h => ⟨h.symm, h ▸ hsome⟩, fun h => h.1.symm⟩

/-- **A builder builds what it is told, whatever the order.** Calls put
together the title, the last description, address and base that they give,
and all packages, social links and entries in the order of the calls. That
configuration is built, unchanged, exactly if its report has no errors, and
the report is returned otherwise. Sequences with the same calls for each
field build the same, with the same report; and a call for several entries
may be replaced by one for each. -/
theorem build_of_calls (title : String) (calls : List Call) :
    assemble title calls = {
        title
        description := (calls.flatMap Call.descriptions).getLast?
        site := (calls.flatMap Call.sites).getLast?
        base := (calls.flatMap Call.bases).getLast?
        packages := calls.flatMap Call.packages
        social := calls.flatMap Call.links
        sidebar := calls.flatMap Call.sidebar }
    ∧ (∀ config, build title calls = .ok config
      ↔ config = assemble title calls ∧ (assemble title calls).report.errors = [])
    ∧ (∀ report, build title calls = .error report
      ↔ report = (assemble title calls).report ∧ report.errors ≠ [])
    ∧ (∀ others, SameByField calls others →
      build title calls = build title others
        ∧ (assemble title calls).report = (assemble title others).report)
    ∧ ∀ before after entries, calls = before ++ .entries entries :: after →
      build title calls = build title (before ++ entries.map .entry ++ after)
        ∧ (assemble title calls).report
          = (assemble title (before ++ entries.map .entry ++ after)).report := by
  refine ⟨assemble_eq title calls, fun config => build_eq_ok_iff, fun report => build_eq_error_iff,
    fun others hothers => ?_, fun before after entries hcalls => ?_⟩
  · have hsame := hothers.assemble_eq title
    exact ⟨by rw [build, build, hsame], by rw [hsame]⟩
  · have hsame := assemble_entries title before after entries
    rw [hcalls]
    exact ⟨by rw [build, build, hsame], by rw [hsame]⟩

/-- Calls for several fields. -/
def plainCalls : List Call :=
  [.description "old", .package "log", .entry (.slug "a"), .description "new",
    .entries [.slug "b", .slug "c"], .package "log"]

/-- The same calls, mixed otherwise. -/
def mixedCalls : List Call :=
  [.entry (.slug "a"), .package "log", .entries [.slug "b", .slug "c"], .package "log",
    .description "old", .description "new"]

theorem build_of_calls_mixedCalls :
    SameByField plainCalls mixedCalls
      ∧ build "t" plainCalls = build "t" mixedCalls
      ∧ (assemble "t" plainCalls).report = (assemble "t" mixedCalls).report := by
  have hsame : SameByField plainCalls mixedCalls := by
    intro field
    cases field <;> decide
  exact ⟨hsame, (build_of_calls "t" plainCalls).2.2.2.1 mixedCalls hsame⟩

end DocSite.Builder
