import MonitoringStack.Helm.Client
import MonitoringStack.Proofs.Store.Operations

namespace MonitoringStack

theorem holdsText_iff {part cs : List Char} : holdsText part cs = true ↔ part <:+: cs := by
  induction cs with
  | nil => rw [holdsText, List.isEmpty_iff, List.infix_nil]
  | cons c cs ih =>
    rw [holdsText, Bool.or_eq_true, List.isPrefixOf_iff_prefix, ih, List.infix_cons_iff]

/-- The words that a value adds to a command. An empty one adds none. -/
def flag (words : List String) (value : String) : List String :=
  if value = "" then [] else words ++ [value]

/-- The words tell which values they come from. -/
theorem flags_inj {ns ns' file file' : String} :
    flag ["--namespace"] ns ++ flag ["--reuse-values", "-f"] file =
        flag ["--namespace"] ns' ++ flag ["--reuse-values", "-f"] file' ↔
      ns = ns' ∧ file = file' := by
  -- the first word tells a namespace from a file, and whether there is any
  constructor
  · intro h
    by_cases hns : ns = "" <;> by_cases hns' : ns' = "" <;> by_cases hfile : file = "" <;>
      by_cases hfile' : file' = "" <;> simp_all [flag]
  · rintro ⟨rfl, rfl⟩
    rfl

structure Invocation where
  program : String
  args : List String
deriving DecidableEq

namespace Invocation

def inquiry (path : String) (chart : ChartSettings) : Invocation :=
  ⟨path, ["status", chart.release] ++ flag ["--namespace"] chart.ns⟩

def upgrade (path : String) (chart : ChartSettings) : Invocation :=
  ⟨path, ["upgrade", chart.release, chart.chartDir] ++ flag ["--namespace"] chart.ns ++
    flag ["--reuse-values", "-f"] (chart.overridesFile.getD "")⟩

def text (i : Invocation) : String := HelmClient.commandLine i.program i.args

end Invocation

inductive Ending where
  | exited (output : CommandOutput)
  | unstarted (command detail : String)

namespace Ending

def result : Ending → Except HelmError CommandOutput
  | .exited output => .ok output
  | .unstarted command detail => .error (.spawn command detail)

def Succeeded (e : Ending) : Prop := ∃ output, e = .exited output ∧ output.exitCode = 0

theorem succeeded_exited {output : CommandOutput} :
    (exited output).Succeeded ↔ output.exitCode = 0 := by
  simp [Succeeded]

theorem not_succeeded_unstarted {command detail : String} :
    ¬ (unstarted command detail).Succeeded := by
  simp [Succeeded]

instance : (e : Ending) → Decidable e.Succeeded
  | .exited _ => decidable_of_iff _ succeeded_exited.symm
  | .unstarted .. => isFalse not_succeeded_unstarted

end Ending

def CommandOutput.SaysMissing (output : CommandOutput) : Prop :=
  "not found".toList <:+: output.stderr.toList

/-- What comes of each program that is run, which may depend on all that was run before. -/
abbrev Shell := List Invocation → Invocation → Ending

namespace Shell

def runner (shell : Shell) : CommandRunner (StateM (List Invocation)) := fun program args before =>
  ((shell before ⟨program, args⟩).result, before ++ [⟨program, args⟩])

def client (shell : Shell) (path : String) : HelmClient (StateM (List Invocation)) :=
  ⟨shell.runner, path⟩

/-- Whether the upgrade is run, going by how the inquiry ended. -/
def Upgrades (chart : ChartSettings) (found : Ending) : Prop := found.Succeeded ∧ chart.release ≠ ""

instance (chart : ChartSettings) (found : Ending) : Decidable (Upgrades chart found) :=
  inferInstanceAs (Decidable (_ ∧ _))

def runs (path : String) (chart : ChartSettings) (found : Ending) : List Invocation :=
  if Upgrades chart found then [.inquiry path chart, .upgrade path chart] else [.inquiry path chart]

def last (chart : ChartSettings) (found tried : Ending) : Ending :=
  if Upgrades chart found then tried else found

/-- How an attempt to upgrade a chart may go, from how the inquiry ended and how the upgrade would:
what is run, and what it comes to. -/
inductive Attempt (path : String) (chart : ChartSettings) (found tried : Ending) :
    List Invocation → Except OperatorError Bool → Prop
  | unasked {command detail : String} (ended : found = .unstarted command detail) :
      Attempt path chart found tried [.inquiry path chart] (.error (.helm (.spawn command detail)))
  | missing {output : CommandOutput} (ended : found = .exited output) (failed : output.exitCode ≠ 0)
      (missing : output.SaysMissing) :
      Attempt path chart found tried [.inquiry path chart] (.ok false)
  | unclear {output : CommandOutput} (ended : found = .exited output) (failed : output.exitCode ≠ 0)
      (present : ¬ output.SaysMissing) :
      Attempt path chart found tried [.inquiry path chart] (.error <| .helm <|
        .commandFailed (Invocation.inquiry path chart).text output.exitCode output.stdout
          output.stderr)
  | unnamed (succeeded : found.Succeeded) (empty : chart.release = "") :
      Attempt path chart found tried [.inquiry path chart]
        (.error (.helm (.invalidRequest "release name must not be empty")))
  | unstarted {command detail : String} (upgrades : Upgrades chart found)
      (ended : tried = .unstarted command detail) :
      Attempt path chart found tried [.inquiry path chart, .upgrade path chart]
        (.error (.helm (.spawn command detail)))
  | failed {output : CommandOutput} (upgrades : Upgrades chart found)
      (ended : tried = .exited output) (failed : output.exitCode ≠ 0) :
      Attempt path chart found tried [.inquiry path chart, .upgrade path chart] (.error <| .helm <|
        .commandFailed (Invocation.upgrade path chart).text output.exitCode output.stdout
          output.stderr)
  | upgraded (upgrades : Upgrades chart found) (succeeded : tried.Succeeded) :
      Attempt path chart found tried [.inquiry path chart, .upgrade path chart] (.ok true)

/-- What an attempt comes to. -/
structure Decides (chart : ChartSettings) (found tried : Ending)
    (result : Except OperatorError Bool) : Prop where
  upgraded : result = .ok true ↔ Upgrades chart found ∧ tried.Succeeded
  missing : result = .ok false ↔
    ∃ output, found = .exited output ∧ output.exitCode ≠ 0 ∧ output.SaysMissing
  unnamed : (∃ detail, result = .error (.helm (.invalidRequest detail))) ↔
    found.Succeeded ∧ chart.release = ""
  unstarted : ∀ command detail, result = .error (.helm (.spawn command detail)) ↔
    last chart found tried = .unstarted command detail
  failed : ∀ code stdout stderr,
    (∃ command, result = .error (.helm (.commandFailed command code stdout stderr))) ↔
      last chart found tried = .exited ⟨stdout, stderr, code⟩ ∧ code ≠ 0 ∧ result ≠ .ok false

theorem stays_of_failed {chart : ChartSettings} {output : CommandOutput}
    (h : output.exitCode ≠ 0) : ¬ Upgrades chart (.exited output) :=
  fun hupgrades => h (Ending.succeeded_exited.1 hupgrades.1)

theorem Attempt.decides {path : String} {chart : ChartSettings} {found tried : Ending}
    {made : List Invocation} {result : Except OperatorError Bool}
    (h : Attempt path chart found tried made result) :
    made = runs path chart found ∧ Decides chart found tried result := by
  cases h with
  | @unasked command detail ended =>
    subst ended
    have hstays : ¬ Upgrades chart (.unstarted command detail) :=
      fun h => Ending.not_succeeded_unstarted h.1
    refine ⟨(if_neg hstays).symm, ?_⟩
    constructor <;> simp [last, hstays, Ending.not_succeeded_unstarted]
  | missing ended failed missing =>
    subst ended
    refine ⟨(if_neg (stays_of_failed failed)).symm, ?_⟩
    constructor <;>
      simp [last, stays_of_failed failed, Ending.succeeded_exited, failed, missing]
  | @unclear output ended failed present =>
    subst ended
    refine ⟨(if_neg (stays_of_failed failed)).symm, ?_⟩
    constructor <;>
      simp [last, stays_of_failed failed, Ending.succeeded_exited, failed, present]
    grind [CommandOutput]
  | unnamed succeeded empty =>
    have hstays : ¬ Upgrades chart found := fun h => h.2 empty
    refine ⟨(if_neg hstays).symm, ?_⟩
    obtain ⟨output, rfl, hcode⟩ := succeeded
    constructor <;> simp [last, hstays, Ending.succeeded_exited, hcode, empty]
    grind [CommandOutput]
  | unstarted upgrades ended =>
    subst ended
    refine ⟨(if_pos upgrades).symm, ?_⟩
    obtain ⟨output, rfl, hcode⟩ := upgrades.1
    constructor <;> simp [last, upgrades, Ending.not_succeeded_unstarted, hcode, upgrades.2]
  | @failed output upgrades ended failed =>
    subst ended
    refine ⟨(if_pos upgrades).symm, ?_⟩
    obtain ⟨output', rfl, hcode⟩ := upgrades.1
    constructor <;> simp [last, upgrades, Ending.succeeded_exited, hcode, failed, upgrades.2]
    grind [CommandOutput]
  | upgraded upgrades succeeded =>
    refine ⟨(if_pos upgrades).symm, ?_⟩
    obtain ⟨output, rfl, hcode⟩ := upgrades.1
    obtain ⟨output', rfl, hcode'⟩ := succeeded
    constructor <;> simp [last, upgrades, Ending.succeeded_exited, hcode, hcode', upgrades.2]
    grind [CommandOutput]

end Shell

namespace HelmClient

theorem overrideArgs_eq (overridesFile : Option String) :
    overrideArgs overridesFile = flag ["--reuse-values", "-f"] (overridesFile.getD "") := by
  cases overridesFile with
  | none => rfl
  | some file => by_cases hfile : file = "" <;> simp [overrideArgs, flag, Option.filter, hfile]

theorem upgradeArgs_eq (path : String) (chart : ChartSettings) :
    upgradeArgs chart.release chart.ns chart.chartDir chart.overridesFile =
      (Invocation.upgrade path chart).args := by
  rw [upgradeArgs, overrideArgs_eq]
  rfl

end HelmClient

namespace Shell

variable {shell : Shell} {path : String} {chart : ChartSettings} {before : List Invocation}

theorem runner_inquiry :
    shell.runner path (HelmClient.statusArgs chart.release chart.ns) before =
      ((shell before (.inquiry path chart)).result, before ++ [.inquiry path chart]) := rfl

theorem runner_upgrade : shell.runner path (Invocation.upgrade path chart).args before =
    ((shell before (.upgrade path chart)).result, before ++ [.upgrade path chart]) := rfl

section Inquiry

variable {output : CommandOutput}

theorem isInstalled_unstarted {command detail : String}
    (h : shell before (.inquiry path chart) = .unstarted command detail) :
    (shell.client path).isInstalled chart.release chart.ns before =
      (.error (.spawn command detail), before ++ [.inquiry path chart]) := by
  simp only [HelmClient.isInstalled, client, bind_apply, runner_inquiry, h, Ending.result]
  rfl

theorem isInstalled_succeeded (h : (shell before (.inquiry path chart)).Succeeded) :
    (shell.client path).isInstalled chart.release chart.ns before =
      (.ok true, before ++ [.inquiry path chart]) := by
  obtain ⟨output, h, hcode⟩ := h
  simp only [HelmClient.isInstalled, client, bind_apply, runner_inquiry, h, Ending.result,
    CommandOutput.succeeded, hcode, decide_true, if_true]
  rfl

theorem isInstalled_failed (h : shell before (.inquiry path chart) = .exited output)
    (hcode : output.exitCode ≠ 0) :
    (shell.client path).isInstalled chart.release chart.ns before =
      (if holdsText "not found".toList output.stderr.toList then .ok false
        else .error (.commandFailed (Invocation.inquiry path chart).text output.exitCode
          output.stdout output.stderr), before ++ [.inquiry path chart]) := by
  simp only [HelmClient.isInstalled, client, bind_apply, runner_inquiry, h, Ending.result,
    CommandOutput.succeeded, hcode, decide_false]
  rfl

end Inquiry

section Upgrade

variable {output : CommandOutput}

theorem upgrade_unnamed (h : chart.release = "") :
    (shell.client path).upgrade chart.release chart.ns chart.chartDir chart.overridesFile before =
      (.error (.invalidRequest "release name must not be empty"), before) := by
  simp only [HelmClient.upgrade, h, if_true]
  rfl

variable (named : chart.release ≠ "")
include named

theorem upgrade_unstarted {command detail : String}
    (h : shell before (.upgrade path chart) = .unstarted command detail) :
    (shell.client path).upgrade chart.release chart.ns chart.chartDir chart.overridesFile before =
      (.error (.spawn command detail), before ++ [.upgrade path chart]) := by
  simp only [HelmClient.upgrade, named, if_false, client, bind_apply, HelmClient.upgradeArgs_eq path,
    runner_upgrade, h, Ending.result]
  rfl

theorem upgrade_exited (h : shell before (.upgrade path chart) = .exited output) :
    (shell.client path).upgrade chart.release chart.ns chart.chartDir chart.overridesFile before =
      (if output.exitCode = 0 then .ok output
        else .error (.commandFailed (Invocation.upgrade path chart).text output.exitCode
          output.stdout output.stderr), before ++ [.upgrade path chart]) := by
  simp only [HelmClient.upgrade, named, if_false, client, bind_apply, HelmClient.upgradeArgs_eq path,
    runner_upgrade, h, Ending.result, CommandOutput.succeeded, decide_eq_true_eq]
  rfl

end Upgrade

section Sync

variable {after : List Invocation}

theorem syncChart_of_error {e : HelmError}
    (h : (shell.client path).isInstalled chart.release chart.ns before = (.error e, after)) :
    (shell.client path).syncChart chart before = (.error (.helm e), after) := by
  rw [HelmClient.syncChart, bind_apply, h]
  rfl

theorem syncChart_of_missing
    (h : (shell.client path).isInstalled chart.release chart.ns before = (.ok false, after)) :
    (shell.client path).syncChart chart before = (.ok false, after) := by
  rw [HelmClient.syncChart, bind_apply, h]
  rfl

theorem syncChart_of_upgrade {upgraded : Except HelmError CommandOutput} {last : List Invocation}
    (h : (shell.client path).isInstalled chart.release chart.ns before = (.ok true, after))
    (hupgrade : (shell.client path).upgrade chart.release chart.ns chart.chartDir
      chart.overridesFile after = (upgraded, last)) :
    (shell.client path).syncChart chart before =
      ((upgraded.mapError .helm).map fun _ => true, last) := by
  rw [HelmClient.syncChart, bind_apply, h]
  dsimp only
  rw [bind_apply, hupgrade]
  cases upgraded <;> rfl

end Sync

theorem attempt_of_succeeded (found : (shell before (.inquiry path chart)).Succeeded) :
    ∃ made result, (shell.client path).syncChart chart before = (result, before ++ made) ∧
      Attempt path chart (shell before (.inquiry path chart))
        (shell (before ++ [.inquiry path chart]) (.upgrade path chart)) made result := by
  have hfound := isInstalled_succeeded found
  by_cases hnamed : chart.release = ""
  · exact ⟨_, _, syncChart_of_upgrade hfound (upgrade_unnamed hnamed), .unnamed found hnamed⟩
  · have hmade : before ++ [Invocation.inquiry path chart] ++ [Invocation.upgrade path chart] =
        before ++ [Invocation.inquiry path chart, Invocation.upgrade path chart] :=
      List.append_assoc ..
    cases hended : shell (before ++ [.inquiry path chart]) (.upgrade path chart) with
    | unstarted command detail =>
      have hsync := syncChart_of_upgrade hfound (upgrade_unstarted hnamed hended)
      rw [hmade] at hsync
      exact ⟨_, _, hsync, .unstarted ⟨found, hnamed⟩ rfl⟩
    | exited output =>
      have hsync := syncChart_of_upgrade hfound (upgrade_exited hnamed hended)
      rw [hmade] at hsync
      by_cases hcode : output.exitCode = 0
      · rw [if_pos hcode] at hsync
        exact ⟨_, _, hsync, .upgraded ⟨found, hnamed⟩ (Ending.succeeded_exited.2 hcode)⟩
      · rw [if_neg hcode] at hsync
        exact ⟨_, _, hsync, .failed ⟨found, hnamed⟩ rfl hcode⟩

/-- An attempt goes one of these ways, and nothing else is run. -/
theorem attempt_syncChart (shell : Shell) (path : String) (chart : ChartSettings)
    (before : List Invocation) : ∃ made result,
    (shell.client path).syncChart chart before = (result, before ++ made) ∧
      Attempt path chart (shell before (.inquiry path chart))
        (shell (before ++ [.inquiry path chart]) (.upgrade path chart)) made result := by
  cases hended : shell before (.inquiry path chart) with
  | unstarted command detail =>
    exact ⟨_, _, syncChart_of_error (isInstalled_unstarted hended), .unasked rfl⟩
  | exited output =>
    by_cases hcode : output.exitCode = 0
    · rw [← hended]
      exact attempt_of_succeeded ⟨output, hended, hcode⟩
    · have hfound := isInstalled_failed hended hcode
      by_cases hmissing : output.SaysMissing
      · rw [if_pos (holdsText_iff.2 hmissing)] at hfound
        exact ⟨_, _, syncChart_of_missing hfound, .missing rfl hcode hmissing⟩
      · rw [if_neg (mt holdsText_iff.1 hmissing)] at hfound
        exact ⟨_, _, syncChart_of_error hfound, .unclear rfl hcode hmissing⟩

/-- First the release is asked for, and the upgrade is run if and only if that went well and the
release has a name. What is returned tells how the runs ended, and the words of an upgrade tell all
that is upgraded. -/
theorem syncChart_decides (shell : Shell) (path : String) (chart : ChartSettings)
    (before : List Invocation) :
    (∃ result, (shell.client path).syncChart chart before =
        (result, before ++ runs path chart (shell before (.inquiry path chart))) ∧
      Decides chart (shell before (.inquiry path chart))
        (shell (before ++ [.inquiry path chart]) (.upgrade path chart)) result) ∧
    ∀ release ns chartDir overridesFile,
      HelmClient.upgradeArgs chart.release chart.ns chart.chartDir chart.overridesFile =
          HelmClient.upgradeArgs release ns chartDir overridesFile ↔
        chart.release = release ∧ chart.ns = ns ∧ chart.chartDir = chartDir ∧
          chart.overridesFile.getD "" = overridesFile.getD "" := by
  constructor
  · obtain ⟨made, result, hsync, hattempt⟩ := attempt_syncChart shell path chart before
    obtain ⟨rfl, hdecides⟩ := hattempt.decides
    exact ⟨result, hsync, hdecides⟩
  · intro release ns chartDir overridesFile
    have hargs := HelmClient.upgradeArgs_eq path ⟨release, ns, chartDir, overridesFile⟩
    dsimp only at hargs
    rw [hargs, HelmClient.upgradeArgs_eq path]
    simp only [Invocation.upgrade, List.cons_append, List.nil_append, List.cons.injEq, true_and,
      flags_inj]
    exact and_congr_right fun _ => and_left_comm

end Shell

end MonitoringStack
