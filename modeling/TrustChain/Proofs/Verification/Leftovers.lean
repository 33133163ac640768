import TrustChain.Proofs.Verification.Stages

/-!
# What validators leave to each other

The validators of an environment are asked in turn and record into the same results. One that
declines hands on what it has recorded, so the validator whose answer stands does not start from
the results that the caller provided (`Environment.AnsweredBy`). If validators only write records,
what is found in the end under a name is what that validator wrote there; failing that, what the
latest of those before it wrote; failing that, what the caller had there
(`Environment.AnsweredBy.get?_validatePath`).

The built-in validator always records a status, but a position only when it fails. A position that
an earlier validator or an earlier validation has recorded is therefore still there after a path has
been accepted, and it is taken for that of the certificate at fault when a later validator declines
without a position of its own.
-/

namespace TrustChain

open Check (outcome outcome_bind outcome_tryCatch)

/-! ### Records under a name -/

theorem Record.get?_insert {α : Type} (record : Record α) (name key : String) (value : α) :
    (record.insert name value).get? key = if key = name then some value else record.get? key := by
  by_cases h : key = name
  · rw [if_pos h, h, get?_insert_self]
  · rw [if_neg h, get?_insert_of_ne record h]

namespace Results

variable {results others : Results}

theorem get?_eq_empty_or (results : Results) (name : String) :
    results.record.get? name = (empty.record.get? name).or (results.record.get? name) := by
  have hempty : empty.record.get? name = none := rfl
  rw [hempty, Option.none_or]

theorem failedIndex?_setStatus (results : Results) (status : Status) :
    (results.setStatus status).failedIndex? = results.failedIndex? := by
  have hother : failedIndexName ≠ statusName := by decide
  unfold failedIndex? setStatus put
  rw [Record.get?_insert_of_ne _ hother]

theorem status?_congr (h : results.record.get? statusName = others.record.get? statusName) :
    results.status? = others.status? := by
  unfold status?
  rw [h]

theorem failedIndex?_congr
    (h : results.record.get? failedIndexName = others.record.get? failedIndexName) :
    results.failedIndex? = others.failedIndex? := by
  unfold failedIndex?
  rw [h]

/-- The records of the one results object lie over those of the other. -/
theorem get?_put_or {left : Option ResultValue} {name key : String} {value : ResultValue}
    (h : results.record.get? key = (others.record.get? key).or left) :
    (results.put name value).record.get? key =
      ((others.put name value).record.get? key).or left := by
  unfold put
  rw [Record.get?_insert, Record.get?_insert]
  by_cases hkey : key = name
  · rw [if_pos hkey, if_pos hkey, Option.some_or]
  · rw [if_neg hkey, if_neg hkey, h]

end Results

/-- Of the records only the position matters for a report. -/
theorem CertificationPath.report_congr {path : CertificationPath} {answer : Except Error Unit}
    {results others : Results} (h : results.failedIndex? = others.failedIndex?) :
    path.report (answer, results) = path.report (answer, others) := by
  cases answer with
  | ok u => rfl
  | error e =>
      dsimp only [report, VerificationError.ofPath]
      rw [h]

/-! ### One validator -/

namespace PathValidator

variable (validator : PathValidator) (verifiers : Verifiers) (now : UInt64) (settings : Settings)
  (path : CertificationPath)

/-- What a validator answers, and the results it leaves. -/
def judge (results : Results) : Except Error Unit × Results :=
  outcome (validator.validate verifiers now settings path) results

/-- What a validator records when it finds no records. -/
def own : Results := (validator.judge verifiers now settings path .empty).2

/-- A validator that writes records but reads none: its answer does not depend on those it finds,
and these stay unless it writes others under their names. -/
structure OnlyRecords : Prop where
  answer_eq (results : Results) :
    (validator.judge verifiers now settings path results).1 =
      (validator.judge verifiers now settings path .empty).1
  get?_eq (results : Results) (name : String) :
    (validator.judge verifiers now settings path results).2.record.get? name =
      ((validator.own verifiers now settings path).record.get? name).or
        (results.record.get? name)

/-- The last record under a name among those that validators write on their own. -/
def lastRecord? (validators : List PathValidator) (name : String) : Option ResultValue :=
  validators.reverse.findSome? fun validator =>
    (validator.own verifiers now settings path).record.get? name

/-- Nobody before a validator has left a record under a name, unless the validator writes its own
record over it. -/
def Prevails (before : List PathValidator) (results : Results) (name : String) : Prop :=
  (validator.own verifiers now settings path).record.get? name = none →
    results.record.get? name = none ∧
      ∀ v ∈ before, (v.own verifiers now settings path).record.get? name = none

variable {validator verifiers now settings path}

theorem lastRecord?_cons (validators : List PathValidator) (name : String) :
    lastRecord? verifiers now settings path (validator :: validators) name =
      (lastRecord? verifiers now settings path validators name).or
        ((validator.own verifiers now settings path).record.get? name) := by
  unfold lastRecord?
  rw [List.reverse_cons, List.findSome?_append, List.findSome?_singleton]

theorem judge_of_builtin (hbuiltin : validator.validate = builtin.validate) (results : Results) :
    validator.judge verifiers now settings path results =
      match path.firstViolation? verifiers now settings with
      | none => (.ok (), results.setStatus .valid)
      | some v => (.error v.cause, results.fail v.status v.index) := by
  unfold judge
  rw [hbuiltin]
  exact CertificationPath.outcome_validate verifiers now settings path results

theorem own_of_violation (hbuiltin : validator.validate = builtin.validate) {v : Violation}
    (hviolation : path.firstViolation? verifiers now settings = some v) :
    validator.own verifiers now settings path = Results.empty.fail v.status v.index := by
  unfold own
  rw [judge_of_builtin hbuiltin, hviolation]

/-- A failure is recorded under both names. -/
theorem prevails_of_violation (hbuiltin : validator.validate = builtin.validate) {v : Violation}
    (hviolation : path.firstViolation? verifiers now settings = some v)
    {before : List PathValidator} {results : Results} {name : String}
    (hname : name ∈ [Results.statusName, Results.failedIndexName]) :
    validator.Prevails verifiers now settings path before results name := by
  intro hnone
  rw [own_of_violation hbuiltin hviolation] at hnone
  unfold Results.fail Results.setStatus Results.setFailedIndex Results.put at hnone
  rw [Record.get?_insert, Record.get?_insert] at hnone
  rcases List.mem_pair.1 hname with rfl | rfl
  · rw [if_neg (by decide), if_pos rfl] at hnone
    cases hnone
  · rw [if_pos rfl] at hnone
    cases hnone

theorem onlyRecords_of_builtin (hbuiltin : validator.validate = builtin.validate) :
    validator.OnlyRecords verifiers now settings path := by
  constructor
  · intro results
    rw [judge_of_builtin hbuiltin, judge_of_builtin hbuiltin]
    cases path.firstViolation? verifiers now settings <;> rfl
  · intro results name
    unfold own
    rw [judge_of_builtin hbuiltin, judge_of_builtin hbuiltin]
    cases path.firstViolation? verifiers now settings with
    | none => exact Results.get?_put_or (results.get?_eq_empty_or name)
    | some v => exact Results.get?_put_or (Results.get?_put_or (results.get?_eq_empty_or name))

end PathValidator

/-! ### Validators in turn -/

section Turns

variable {verifiers : Verifiers} {now : UInt64} {settings : Settings} {path : CertificationPath}

/-- Validators decline a path one after the other, each starting from what the one before it
left. -/
inductive DeclineInTurn (verifiers : Verifiers) (now : UInt64) (settings : Settings)
    (path : CertificationPath) : List PathValidator → Results → Results → Prop where
  | nil {results : Results} : DeclineInTurn verifiers now settings path [] results results
  | cons {validator : PathValidator} {rest : List PathValidator} {results after left : Results}
      {error : Error}
      (hdeclined : validator.judge verifiers now settings path results = (.error error, after))
      (hrest : DeclineInTurn verifiers now settings path rest after left) :
      DeclineInTurn verifiers now settings path (validator :: rest) results left

theorem DeclineInTurn.get?_eq {before : List PathValidator} {results left : Results}
    (hbefore : DeclineInTurn verifiers now settings path before results left)
    (honly : ∀ v ∈ before, v.OnlyRecords verifiers now settings path) (name : String) :
    left.record.get? name =
      (PathValidator.lastRecord? verifiers now settings path before name).or
        (results.record.get? name) := by
  induction hbefore with
  | nil => rfl
  | @cons validator rest results after left error hdeclined hrest ih =>
      have hafter := (honly validator List.mem_cons_self).get?_eq results name
      rw [hdeclined] at hafter
      rw [ih fun v hv => honly v (List.mem_cons_of_mem _ hv), hafter,
        PathValidator.lastRecord?_cons, Option.or_assoc]

theorem outcome_judgeOr_cons (error : Error) (validator : PathValidator)
    (rest : List PathValidator) (results : Results) :
    outcome (Environment.judgeOr verifiers now settings path error (validator :: rest)) results =
      match validator.judge verifiers now settings path results with
      | (.ok u, after) => (.ok u, after)
      | (.error e, after) =>
        outcome (Environment.judgeOr verifiers now settings path e rest) after := by
  rw [Environment.judgeOr, outcome_bind, Check.outcome_liftM]
  dsimp only
  rw [outcome_tryCatch]
  unfold PathValidator.judge
  cases outcome (validator.validate verifiers now settings path) results with
  | mk answer after => cases answer <;> rfl

/-- The induction is on the validators. Whoever accepts decides; whoever declines leaves the rest
the same question with other results. -/
theorem exists_decisive {validators : List PathValidator} (hne : validators ≠ []) (error : Error)
    (results : Results) :
    ∃ before validator after left, validators = before ++ validator :: after ∧
      DeclineInTurn verifiers now settings path before results left ∧
      outcome (Environment.judgeOr verifiers now settings path error validators) results =
        validator.judge verifiers now settings path left ∧
      ((validator.judge verifiers now settings path left).1 = .ok () ∨ after = []) := by
  induction validators generalizing error results with
  | nil => exact absurd rfl hne
  | cons first rest ih =>
      rw [outcome_judgeOr_cons]
      cases hfirst : first.judge verifiers now settings path results with
      | mk answer left =>
      cases answer with
      | ok u =>
          refine ⟨[], first, rest, results, rfl, .nil, ?_, .inl ?_⟩
          · rw [hfirst]
          · rw [hfirst]
      | error e =>
          by_cases hrest : rest = []
          · subst hrest
            refine ⟨[], first, [], results, rfl, .nil, ?_, .inr rfl⟩
            rw [hfirst]
            rfl
          · obtain ⟨before, validator, after, final, rfl, hbefore, hdecided, hplace⟩ :=
              ih hrest e left
            exact ⟨first :: before, validator, after, final, rfl, .cons hfirst hbefore, hdecided,
              hplace⟩

end Turns

namespace Environment

/-- The answer of an environment is that of `validator`, the first one that accepts or else the
last; `before` declined, and it started from what they left. -/
structure AnsweredBy (env : Environment) (now : UInt64) (settings : Settings)
    (path : CertificationPath) (results : Results) (before : List PathValidator)
    (validator : PathValidator) (left : Results) : Prop where
  declined : DeclineInTurn env.verifiers now settings path before results left
  decided : outcome (env.validatePath now settings path) results =
    validator.judge env.verifiers now settings path left
  placed : ∃ after, env.validators = before ++ validator :: after ∧
    ((validator.judge env.verifiers now settings path left).1 = .ok () ∨ after = [])

variable {env : Environment} {now : UInt64} {settings : Settings} {path : CertificationPath}
  {results left : Results} {before : List PathValidator} {validator : PathValidator}

theorem exists_answeredBy (hne : env.validators ≠ []) (results : Results) :
    ∃ before validator left,
      env.AnsweredBy now settings path results before validator left := by
  obtain ⟨before, validator, after, left, hvalidators, hbefore, hdecided, hplace⟩ :=
    exists_decisive hne .unrecognized results
  exact ⟨before, validator, left, hbefore, hdecided, after, hvalidators, hplace⟩

namespace AnsweredBy

variable (h : env.AnsweredBy now settings path results before validator left)

include h

theorem get?_validatePath
    (honly : ∀ v ∈ validator :: before, v.OnlyRecords env.verifiers now settings path)
    (name : String) :
    (outcome (env.validatePath now settings path) results).2.record.get? name =
      ((validator.own env.verifiers now settings path).record.get? name).or
        ((PathValidator.lastRecord? env.verifiers now settings path before name).or
          (results.record.get? name)) := by
  rw [h.decided, (honly validator List.mem_cons_self).get?_eq,
    h.declined.get?_eq fun v hv => honly v (List.mem_cons_of_mem _ hv)]

theorem get?_eq_own
    (honly : ∀ v ∈ validator :: before, v.OnlyRecords env.verifiers now settings path)
    {name : String}
    (hprevails : validator.Prevails env.verifiers now settings path before results name) :
    (outcome (env.validatePath now settings path) results).2.record.get? name =
      (validator.own env.verifiers now settings path).record.get? name := by
  rw [h.get?_validatePath honly]
  cases hown : (validator.own env.verifiers now settings path).record.get? name with
  | some value => rw [Option.some_or]
  | none =>
      obtain ⟨hresults, hbefore⟩ := hprevails hown
      have hlast :
          PathValidator.lastRecord? env.verifiers now settings path before name = none := by
        unfold PathValidator.lastRecord?
        rw [List.findSome?_eq_none_iff]
        intro v hv
        exact hbefore v (List.mem_reverse.1 hv)
      rw [hresults, hlast, Option.none_or, Option.none_or]

theorem outcome_of_builtin (hbuiltin : validator.validate = PathValidator.builtin.validate) :
    outcome (env.validatePath now settings path) results =
      match path.firstViolation? env.verifiers now settings with
      | none => (.ok (), left.setStatus .valid)
      | some v => (.error v.cause, left.fail v.status v.index) := by
  rw [h.decided]
  exact PathValidator.judge_of_builtin hbuiltin left

theorem records_of_acceptance (hbuiltin : validator.validate = PathValidator.builtin.validate)
    (hok : (outcome (env.validatePath now settings path) results).1 = .ok ()) :
    (outcome (env.validatePath now settings path) results).2.status? = some .valid ∧
    (outcome (env.validatePath now settings path) results).2.failedIndex? = left.failedIndex? := by
  rw [h.outcome_of_builtin hbuiltin] at hok ⊢
  cases hviolation : path.firstViolation? env.verifiers now settings with
  | none => exact ⟨Results.status?_setStatus _ _, Results.failedIndex?_setStatus _ _⟩
  | some v =>
      rw [hviolation] at hok
      cases hok

theorem records_of_failure (hbuiltin : validator.validate = PathValidator.builtin.validate)
    {e : Error} (herror : (outcome (env.validatePath now settings path) results).1 = .error e) :
    (outcome (env.validatePath now settings path) results).2.status? =
      (validator.own env.verifiers now settings path).status? ∧
    (outcome (env.validatePath now settings path) results).2.failedIndex? =
      (validator.own env.verifiers now settings path).failedIndex? := by
  rw [h.outcome_of_builtin hbuiltin] at herror ⊢
  cases hviolation : path.firstViolation? env.verifiers now settings with
  | none =>
      rw [hviolation] at herror
      cases herror
  | some v =>
      rw [PathValidator.own_of_violation hbuiltin hviolation]
      dsimp only
      constructor
      · rw [Results.status?_fail, Results.status?_fail]
      · rw [Results.failedIndex?_fail, Results.failedIndex?_fail]

/-- A report as the validator by itself would give rise to. -/
theorem report_eq
    (honly : ∀ v ∈ validator :: before, v.OnlyRecords env.verifiers now settings path)
    (hprevails : validator.Prevails env.verifiers now settings path before results
      Results.failedIndexName) :
    path.report (outcome (env.validatePath now settings path) results) =
      path.report (validator.judge env.verifiers now settings path .empty) := by
  have hindex := Results.failedIndex?_congr (h.get?_eq_own honly hprevails)
  have hanswer := (honly validator List.mem_cons_self).answer_eq left
  rw [← h.decided] at hanswer
  calc
    path.report (outcome (env.validatePath now settings path) results) =
        path.report ((outcome (env.validatePath now settings path) results).1,
          validator.own env.verifiers now settings path) := CertificationPath.report_congr hindex
    _ = path.report (validator.judge env.verifiers now settings path .empty) := by
      rw [hanswer]
      rfl

end AnsweredBy

/-- **What validators leave to each other.** The answer for a path is that of the first validator
that accepts it, or else of the last, which starts from the results that those before it left. If
validators write records but read none, then what is found in the end under a name is what the
validator that answers writes there; failing that, what the latest of those before it wrote there;
failing that, what was there to begin with. So the results describe the answer wherever that
validator prevails. The built-in one always does when it fails; when it accepts, the status is its
own, but a position that was left stays. Verification reports the answer with the position that is
found in the end, hence as the validator would have had it reported by itself if it prevails. -/
theorem validatePath_accumulates (env : Environment) (now : UInt64) (settings : Settings)
    (path : CertificationPath) :
    (env.validators = [] → ∀ results,
      outcome (env.validatePath now settings path) results = (.error .unrecognized, results)) ∧
    (env.validators ≠ [] → ∀ results, ∃ before validator left,
      env.AnsweredBy now settings path results before validator left) ∧
    (∀ results before validator left answer final,
      env.AnsweredBy now settings path results before validator left →
      outcome (env.validatePath now settings path) results = (answer, final) →
      ((∀ v ∈ validator :: before, v.OnlyRecords env.verifiers now settings path) →
        answer = (validator.judge env.verifiers now settings path .empty).1 ∧
        (∀ name, final.record.get? name =
          ((validator.own env.verifiers now settings path).record.get? name).or
            ((PathValidator.lastRecord? env.verifiers now settings path before name).or
              (results.record.get? name))) ∧
        ((∀ name ∈ [Results.statusName, Results.failedIndexName],
            validator.Prevails env.verifiers now settings path before results name) →
          final.status? = (validator.own env.verifiers now settings path).status? ∧
          final.failedIndex? = (validator.own env.verifiers now settings path).failedIndex?)) ∧
      (validator.validate = PathValidator.builtin.validate →
        (answer = .ok () →
          final.status? = some .valid ∧ final.failedIndex? = left.failedIndex?) ∧
        ∀ e, answer = .error e →
          final.status? = (validator.own env.verifiers now settings path).status? ∧
          final.failedIndex? = (validator.own env.verifiers now settings path).failedIndex?)) ∧
    ∀ target pool classified, env.Builds now settings target pool classified path →
      (env.verify now settings (some target) pool).value =
        path.report (outcome (env.validatePath now (settings.pin now) path) .empty) ∧
      ∀ before validator left,
        env.AnsweredBy now (settings.pin now) path .empty before validator left →
        (∀ v ∈ validator :: before, v.OnlyRecords env.verifiers now (settings.pin now) path) →
        validator.Prevails env.verifiers now (settings.pin now) path before .empty
          Results.failedIndexName →
        (env.verify now settings (some target) pool).value =
          path.report (validator.judge env.verifiers now (settings.pin now) path .empty) := by
  refine ⟨?_, fun hne results => exists_answeredBy hne results, ?_, ?_⟩
  · intro hnone results
    unfold validatePath
    rw [hnone]
    rfl
  · intro results before validator left answer final hanswered hfinal
    have hanswer : (outcome (env.validatePath now settings path) results).1 = answer := by
      rw [hfinal]
    have hrecords : (outcome (env.validatePath now settings path) results).2 = final := by
      rw [hfinal]
    refine ⟨fun honly => ⟨?_, ?_, ?_⟩, fun hbuiltin => ⟨?_, ?_⟩⟩
    · rw [← hanswer, hanswered.decided]
      exact (honly validator List.mem_cons_self).answer_eq left
    · intro name
      rw [← hrecords]
      exact hanswered.get?_validatePath honly name
    · intro hprevails
      rw [← hrecords]
      exact ⟨Results.status?_congr (hanswered.get?_eq_own honly (hprevails _ (by simp))),
        Results.failedIndex?_congr (hanswered.get?_eq_own honly (hprevails _ (by simp)))⟩
    · intro hok
      rw [← hrecords]
      exact hanswered.records_of_acceptance hbuiltin (hanswer.trans hok)
    · intro e herror
      rw [← hrecords]
      exact hanswered.records_of_failure hbuiltin (hanswer.trans herror)
  · intro target pool classified hbuilt
    refine ⟨hbuilt.value_verify_eq, ?_⟩
    intro before validator left hanswered honly hprevails
    rw [hbuilt.value_verify_eq]
    exact hanswered.report_eq honly hprevails

end Environment

namespace Sample

/-- Declines every path at the same position. -/
def stumbling (index : Nat) (e : Error) : PathValidator :=
  ⟨none, fun _ _ _ _ => do
    modify (·.setFailedIndex index)
    throw e⟩

/-- Declines every path without a record. -/
def refusing (e : Error) : PathValidator := ⟨none, fun _ _ _ _ => throw e⟩

theorem onlyRecords_stumbling {index : Nat} {e : Error} {verifiers : Verifiers} {now : UInt64}
    {settings : Settings} {path : CertificationPath} :
    (stumbling index e).OnlyRecords verifiers now settings path := by
  refine ⟨fun _ => rfl, fun results name => ?_⟩
  exact Results.get?_put_or (results.get?_eq_empty_or name)

/-- The second of two validators answers for a path that the first declines. -/
theorem answeredBy_second {first second : PathValidator} {settings : Settings}
    {path : CertificationPath} {results left : Results} {e : Error}
    (hfirst : first.judge [verifier] now settings path results = (.error e, left)) :
    (Environment.mk [verifier] [first, second]).AnsweredBy now settings path results [first] second
      left := by
  refine ⟨.cons hfirst .nil, ?_, [], rfl, .inr rfl⟩
  unfold Environment.validatePath
  rw [outcome_judgeOr_cons, hfirst]
  dsimp only
  rw [outcome_judgeOr_cons]
  cases second.judge [verifier] now settings path left with
  | mk answer after => cases answer <;> rfl

/-- The path that is found in the mesh. -/
def meshPath : CertificationPath := ⟨root, [lower, back, upper], leaf⟩

theorem builds_meshPath {validators : List PathValidator} {settings : Settings}
    (hfilter : settings.filterWhenBuilding = true)
    (hchecked : (checkTarget [verifier] now settings (some leaf)).value = .ok leaf) :
    (Environment.mk [verifier] validators).Builds now settings leaf mesh sortedMesh meshPath := by
  obtain ⟨hchecked, hsorted, hfound⟩ := builds_mesh hfilter hchecked
  exact ⟨hchecked, hsorted, hfound⟩

/-- Asks a validator that declines every path at the trust anchor before the built-in one. -/
def stumblingFirst : Environment := ⟨[verifier], [stumbling 4 .notFound, .builtin]⟩

theorem answeredBy_stumblingFirst (settings : Settings) :
    stumblingFirst.AnsweredBy now settings meshPath .empty [stumbling 4 .notFound] .builtin
      (Results.empty.setFailedIndex 4) :=
  answeredBy_second rfl

theorem onlyRecords_stumblingFirst (settings : Settings) :
    ∀ v ∈ [.builtin, stumbling 4 .notFound],
      v.OnlyRecords stumblingFirst.verifiers now settings meshPath := by
  intro v hv
  rcases List.mem_pair.1 hv with rfl | rfl
  · exact PathValidator.onlyRecords_of_builtin rfl
  · exact onlyRecords_stumbling

/-- With two intermediates allowed, the path has one too many. The built-in validator prevails over
the other: its status and its position are found in the end, and its error is reported with them. -/
theorem builtin_prevails_in_mesh :
    ∃ final,
      outcome (stumblingFirst.validatePath now (Settings.empty.setInitialPathLength 2) meshPath)
        .empty = (.error (.pathValidation .invalidPathLength), final) ∧
      final.status? = some .invalidPathLength ∧ final.failedIndex? = some 1 ∧
      (stumblingFirst.verify now (Settings.empty.setInitialPathLength 2) (some leaf) mesh).value =
        .error (.ofCause (.pathValidation .invalidPathLength) (some lower) (some back)) := by
  have hviolation : meshPath.firstViolation? stumblingFirst.verifiers now
      (Settings.empty.setInitialPathLength 2) =
        some (.ofStatus lower "path length constraint violation" .invalidPathLength 1) := rfl
  have hpinned := CertificationPath.firstViolation?_pin stumblingFirst.verifiers now now
    (Settings.empty.setInitialPathLength 2) meshPath
  rw [hviolation] at hpinned
  have hanswered := answeredBy_stumblingFirst (Settings.empty.setInitialPathLength 2)
  have hfinal := hanswered.outcome_of_builtin rfl
  rw [hviolation] at hfinal
  obtain ⟨-, -, hrecords, hverify⟩ := stumblingFirst.validatePath_accumulates now
    (Settings.empty.setInitialPathLength 2) meshPath
  obtain ⟨honly, hbuiltin⟩ := hrecords _ _ _ _ _ _ hanswered hfinal
  obtain ⟨hstatus, -⟩ := (hbuiltin rfl).2 _ rfl
  obtain ⟨-, -, hdescribes⟩ := honly (onlyRecords_stumblingFirst _)
  obtain ⟨-, hindex⟩ := hdescribes fun name hname =>
    PathValidator.prevails_of_violation rfl hviolation hname
  obtain ⟨-, hreport⟩ := hverify leaf mesh sortedMesh (builds_meshPath rfl rfl)
  have hreported := hreport _ _ _ (answeredBy_stumblingFirst _) (onlyRecords_stumblingFirst _)
    (PathValidator.prevails_of_violation rfl hpinned (by simp))
  rw [PathValidator.judge_of_builtin rfl, hpinned] at hreported
  refine ⟨_, hfinal, ?_, ?_, hreported.trans ?_⟩
  · rw [hstatus, PathValidator.own_of_violation rfl hviolation, Results.status?_fail]
    rfl
  · rw [hindex, PathValidator.own_of_violation rfl hviolation, Results.failedIndex?_fail]
    rfl
  · dsimp only [CertificationPath.report]
    rw [Environment.ofPath_fail rfl]
    rfl

/-- A position may outlive the failure it belongs to. The path validates, but the position at which
another validator declined it before, or at which another validation with the same results ended,
is still there. And an error without a position is reported for the certificate at which another
validator declined, instead of for the target. -/
theorem position_outlives_failure :
    (PathValidator.builtin.own [verifier] now .empty meshPath).failedIndex? = none ∧
    (∃ final, outcome (stumblingFirst.validatePath now .empty meshPath) .empty = (.ok (), final) ∧
      final.status? = some .valid ∧ final.failedIndex? = some 4) ∧
    (∃ final, outcome (environment.validatePath now .empty meshPath)
        (Results.empty.fail .invalidPathLength 1) = (.ok (), final) ∧
      final.status? = some .valid ∧ final.failedIndex? = some 1) ∧
    ((Environment.mk [verifier] [refusing .unrecognized]).verify now .empty (some leaf)
      mesh).value = .error (.ofCause .unrecognized (some leaf) (some lower)) ∧
    ((Environment.mk [verifier] [stumbling 3 .notFound, refusing .unrecognized]).verify now .empty
      (some leaf) mesh).value = .error (.ofCause .unrecognized (some upper) (some root)) := by
  have hviolation : meshPath.firstViolation? [verifier] now .empty = none := rfl
  have haccepted : ∀ results, PathValidator.builtin.judge [verifier] now .empty meshPath results =
      (.ok (), results.setStatus .valid) := by
    intro results
    rw [PathValidator.judge_of_builtin rfl, hviolation]
  have hlater := (answeredBy_stumblingFirst .empty).decided.trans (haccepted _)
  have hagain := (@Environment.outcome_validatePath environment rfl now .empty meshPath
    (Results.empty.fail .invalidPathLength 1)).trans (haccepted _)
  refine ⟨?_, ⟨_, hlater, ?_, ?_⟩, ⟨_, hagain, ?_, ?_⟩, ?_, ?_⟩
  · unfold PathValidator.own
    rw [haccepted, Results.failedIndex?_setStatus]
    rfl
  · rw [Results.status?_setStatus]
  · rw [Results.failedIndex?_setStatus]
    rfl
  · rw [Results.status?_setStatus]
  · rw [Results.failedIndex?_setStatus, Results.failedIndex?_fail]
  · rw [(builds_meshPath rfl rfl).value_verify_eq]
    rfl
  · rw [(builds_meshPath rfl rfl).value_verify_eq]
    rfl

end Sample

end TrustChain
