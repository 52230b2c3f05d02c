import CopyLocker.Types

/-!
# Releases and version scopes

The release registry of a product and the decision about the release that a client reports
(`copylocker-server-core::version`). Version strings and ranges are read character by character.

## Main results

* `semverMatches_iff`: a range admits the versions in the interval of each of its terms.
* `decideVersion_grants_iff`: when a release that is not compromised is granted.
* `decideVersion_eq_notRegistered_iff`: only an unknown id is reported as such.
* `highestAllowed_usable_iff`: when the release that is suggested instead can be used.
-/

namespace CopyLocker.Server

open List

/-- Which application versions a license covers. -/
inductive VersionScope
  | unlimited
  | semverRange (range : String)
  | releasedBefore (cutoff : ℤ)
  | pinned (ids : List String)
  deriving DecidableEq

/-! ### Semantic versions -/

/-- A parsed version; the order is by the components from the left. -/
structure SemVer where
  major : ℕ
  minor : ℕ
  patch : ℕ
  deriving DecidableEq

/-- `<` of two versions. -/
def SemVer.before (v b : SemVer) : Bool :=
  decide (v.major < b.major) || (v.major == b.major &&
    (decide (v.minor < b.minor) || (v.minor == b.minor && decide (v.patch < b.patch))))

/-- The value of a string of decimal digits. -/
def decimal (s : List Char) : ℕ := s.foldl (fun n c => 10 * n + (c.toNat - 48)) 0

/-- `str::parse::<u64>`: an optional plus sign and decimal digits, within the word. -/
def parseU64 (s : List Char) : Option ℕ :=
  let digits := match s with
    | '+' :: rest => rest
    | _ => s
  if digits.isEmpty ∨ ¬ digits.all Char.isDigit ∨ 2 ^ 64 ≤ decimal digits then none
  else some (decimal digits)

/-- The parts of a version that follow the major one; a part that is not a number counts as zero. -/
def minorPart (part : Option (List Char)) : ℕ := (parseU64 (trim (part.getD ['0']))).getD 0

/-- `major[.minor[.patch]]`, with pre-release and build metadata dropped. -/
def parseSemver (s : List Char) : Option SemVer :=
  let core := (s.splitOnP fun c => c == '-' || c == '+').headD []
  match core.splitOn '.' with
  | [] => none
  | major :: rest =>
    (parseU64 (trim major)).bind fun major =>
      if (rest[2]?).isSome then none
      else some { major, minor := minorPart rest[0]?, patch := minorPart rest[1]? }

/-- The comparison operators of a range. -/
inductive RangeOp
  | ge
  | le
  | gt
  | lt
  | caret
  | tilde
  | eq
  deriving DecidableEq

/-- The operator in front of a term, and what follows it. -/
def rangeOp : List Char → RangeOp × List Char
  | '>' :: '=' :: rest => (.ge, rest)
  | '<' :: '=' :: rest => (.le, rest)
  | '>' :: rest => (.gt, rest)
  | '<' :: rest => (.lt, rest)
  | '^' :: rest => (.caret, rest)
  | '~' :: rest => (.tilde, rest)
  | '=' :: rest => (.eq, rest)
  | term => (.eq, term)

/-- A version matches a term. -/
def matchTerm (v : SemVer) (term : List Char) : Bool :=
  let (op, rest) := rangeOp term
  match parseSemver rest with
  | none => false
  | some b =>
    match op with
    | .ge => !v.before b
    | .le => !b.before v
    | .gt => b.before v
    | .lt => v.before b
    | .eq => v == b
    | .caret =>
      if 0 < b.major then v.major == b.major && !v.before b
      else if 0 < b.minor then v.major == 0 && v.minor == b.minor && !v.before b
      else v.major == 0 && v.minor == 0 && v.patch == b.patch
    | .tilde => v.major == b.major && v.minor == b.minor && !v.before b

/-- A range is a conjunction of terms; a term that does not parse matches nothing. -/
def semverMatches (version range : String) : Bool :=
  match parseSemver version.toList with
  | none => false
  | some v =>
    let range := trim range.toList
    range.isEmpty || range == ['*'] ||
      ((range.splitOnP isWhitespace).filter fun term => !term.isEmpty).all (matchTerm v)

/-! ### What a range admits -/

/-- The version that follows in the order. -/
def SemVer.next (b : SemVer) : SemVer := { b with patch := b.patch + 1 }

/-- The first version that an operator admits. -/
def RangeOp.lower (b : SemVer) : RangeOp → SemVer
  | .ge | .eq | .caret | .tilde => b
  | .gt => b.next
  | .le | .lt => ⟨0, 0, 0⟩

/-- The first version beyond those that an operator admits. -/
def RangeOp.upper (b : SemVer) : RangeOp → Option SemVer
  | .ge | .gt => none
  | .le | .eq => some b.next
  | .lt => some b
  | .caret =>
    some (if 0 < b.major then ⟨b.major + 1, 0, 0⟩
      else if 0 < b.minor then ⟨0, b.minor + 1, 0⟩ else b.next)
  | .tilde => some ⟨b.major, b.minor + 1, 0⟩

/-- The version is in the interval of an operator. -/
def RangeOp.Admits (op : RangeOp) (b v : SemVer) : Prop :=
  v.before (op.lower b) = false ∧ ∀ stop ∈ op.upper b, v.before stop = true

/-- A decimal number within the word, perhaps with whitespace around it. -/
def IsNumber (part : List Char) (n : ℕ) : Prop :=
  trim part ≠ [] ∧ (trim part).all Char.isDigit = true ∧ decimal (trim part) = n ∧ n < 2 ^ 64

instance (part : List Char) (n : ℕ) : Decidable (IsNumber part n) :=
  inferInstanceAs (Decidable (_ ∧ _))

/-- The dot-separated parts of a version, before the first `-` or `+`. -/
def versionParts (s : List Char) : List (List Char) :=
  ((s.splitOnP fun c => c == '-' || c == '+').headD []).splitOn '.'

/-- One to three numbers, separated by dots. -/
def Spells (s : List Char) (v : SemVer) : Prop :=
  match versionParts s with
  | [major] => IsNumber major v.major ∧ v.minor = 0 ∧ v.patch = 0
  | [major, minor] => IsNumber major v.major ∧ IsNumber minor v.minor ∧ v.patch = 0
  | [major, minor, patch] =>
    IsNumber major v.major ∧ IsNumber minor v.minor ∧ IsNumber patch v.patch
  | _ => False

/-- Every part after the first is a number. -/
def MinorPartsRead (s : List Char) : Prop :=
  ∀ part ∈ (versionParts s).tail, ∃ n, IsNumber part n

theorem of_mem_splitOnP {p : Char → Bool} {s part : List Char} (h : part ∈ s.splitOnP p) :
    ∀ c ∈ part, c ∈ s ∧ p c = false := by
  induction s generalizing part with
  | nil => simp_all
  | cons a s ih =>
    obtain ⟨first, rest, hsplit⟩ := exists_cons_of_ne_nil (splitOnP_ne_nil p s)
    rw [splitOnP_cons_eq_if_modifyHead, hsplit] at h
    split_ifs at h <;> simp only [modifyHead, mem_cons] at h ih <;> grind

theorem parseU64_iff {part : List Char} {n : ℕ} (hplus : '+' ∉ part) :
    parseU64 (trim part) = some n ↔ IsNumber part n := by
  have hmem : '+' ∉ trim part := fun hc => hplus (by
    have h := List.mem_reverse.1 hc
    exact (List.dropWhile_sublist _).mem (List.mem_reverse.1 ((List.dropWhile_sublist _).mem h)))
  unfold parseU64
  split
  next rest heq => simp [heq] at hmem
  · simp only [IsNumber, List.isEmpty_iff]
    split_ifs with hbad
    · simp only [false_iff]
      rintro ⟨hne, hdigits, rfl, hlt⟩
      exact hbad.elim hne (·.elim (· hdigits) (Nat.not_le.2 hlt))
    · push Not at hbad
      rw [Option.some.injEq]
      exact ⟨fun h => ⟨hbad.1, hbad.2.1, h, h ▸ hbad.2.2⟩, fun h => h.2.2.1⟩

private theorem minorPart_iff {part : List Char} {n : ℕ} (hplus : '+' ∉ part)
    (hnumber : ∃ m, IsNumber part m) : minorPart (some part) = n ↔ IsNumber part n := by
  obtain ⟨m, hm⟩ := hnumber
  rw [← parseU64_iff hplus] at hm ⊢
  simp [minorPart, hm]

/-- A string whose later parts are numbers is read as the version that it spells. -/
theorem parseSemver_iff {s : List Char} {v : SemVer} (h : MinorPartsRead s) :
    parseSemver s = some v ↔ Spells s v := by
  have hplus (part : List Char) (h : part ∈ versionParts s) : '+' ∉ part := by
    intro hc
    obtain ⟨core, rest, hcore⟩ := exists_cons_of_ne_nil
      (splitOnP_ne_nil (fun c => c == '-' || c == '+') s)
    rw [versionParts, hcore] at h
    have hmem := of_mem_splitOnP (hcore ▸ mem_cons_self) '+' (of_mem_splitOnP h '+' hc).1
    simp at hmem
  have hzero : minorPart none = 0 := by decide
  obtain ⟨x, y, z⟩ := v
  unfold MinorPartsRead at h
  unfold parseSemver Spells
  dsimp only
  change (match versionParts s with | [] => none | major :: rest => _) = _ ↔ _
  generalize versionParts s = parts at h hplus
  match parts with
  | [] => simp
  | [major] =>
    simp [← parseU64_iff (hplus major (by simp)), Option.bind_eq_some_iff, hzero, eq_comm (a := 0)]
  | [major, minor] =>
    simp [← parseU64_iff (hplus major (by simp)),
      ← minorPart_iff (hplus minor (by simp)) (h minor (by simp)),
      Option.bind_eq_some_iff, hzero, eq_comm (a := 0)]
  | [major, minor, patch] =>
    simp [← parseU64_iff (hplus major (by simp)),
      ← minorPart_iff (hplus minor (by simp)) (h minor (by simp)),
      ← minorPart_iff (hplus patch (by simp)) (h patch (by simp)), Option.bind_eq_some_iff]
  | _ :: _ :: _ :: _ :: _ => simp

theorem matchTerm_iff {v : SemVer} {term : List Char} (h : MinorPartsRead (rangeOp term).2) :
    matchTerm v term ↔ ∃ b, Spells (rangeOp term).2 b ∧ (rangeOp term).1.Admits b v := by
  obtain ⟨x, y, z⟩ := v
  simp only [← parseSemver_iff h, matchTerm]
  obtain ⟨op, rest⟩ := rangeOp term
  cases parseSemver rest with
  | none => simp
  | some b =>
    obtain ⟨major, minor, patch⟩ := b
    cases op <;>
      simp [RangeOp.Admits, RangeOp.lower, RangeOp.upper, SemVer.before, SemVer.next] <;> grind

/-- The status of a release. -/
inductive ReleaseStatus
  | active
  | deprecated
  | compromised
  deriving DecidableEq

/-- What is done about a compromised release. -/
inductive CompromisedAction
  | warn
  | forceUpgrade
  | revoke
  deriving DecidableEq

/-- A registered release; the registry reads no other field of it. -/
structure Release where
  id : String
  appVersion : String
  variantId : ℕ
  status : ReleaseStatus
  compromisedAction : Option CompromisedAction
  publishedAt : ℤ
  deriving DecidableEq

/-- The releases of a product. -/
structure ReleaseRegistry where
  releases : List Release
  deriving DecidableEq

/-- A scope covers a release; the cutoff itself is covered. -/
def Release.satisfies (r : Release) : VersionScope → Bool
  | .unlimited => true
  | .releasedBefore cutoff => decide (r.publishedAt ≤ cutoff)
  | .pinned ids => ids.contains r.id
  | .semverRange range => semverMatches r.appVersion range

/-- `Iterator::max_by_key`: the last of the greatest elements. -/
def maxByKey {α : Type} (key : α → ℤ) : List α → Option α
  | [] => none
  | a :: rest =>
    match maxByKey key rest with
    | none => some a
    | some b => if key b < key a then some a else some b

section MaxByKey

variable {α : Type} {key : α → ℤ} {l : List α} {a : α}

theorem maxByKey_eq_none_iff : maxByKey key l = none ↔ l = [] := by
  fun_cases maxByKey key l <;> simp

/-- What is chosen is at least as great as what stands before it, and greater than what follows. -/
theorem exists_append_of_maxByKey (h : maxByKey key l = some a) :
    ∃ before after, l = before ++ a :: after ∧ (∀ b ∈ before, key b ≤ key a) ∧
      ∀ b ∈ after, key b < key a := by
  induction l generalizing a with
  | nil => cases h
  | cons c rest ih =>
    unfold maxByKey at h
    split at h
    next hnone =>
      cases h
      exact ⟨[], rest, rfl, by simp, by simp [maxByKey_eq_none_iff.1 hnone]⟩
    next b hsome =>
      split_ifs at h with hlt
      · cases h
        refine ⟨[], rest, rfl, by simp, fun b' hb' => ?_⟩
        obtain ⟨before, after, rfl, hbefore, hafter⟩ := ih hsome
        grind
      · cases h
        obtain ⟨before, after, rfl, hbefore, hafter⟩ := ih hsome
        exact ⟨c :: before, after, rfl, by grind, hafter⟩

/-- There is one such element only. -/
theorem maxByKey_append {before after : List α} (hbefore : ∀ b ∈ before, key b ≤ key a)
    (hafter : ∀ b ∈ after, key b < key a) : maxByKey key (before ++ a :: after) = some a := by
  induction before with
  | nil =>
    rw [nil_append, maxByKey]
    split
    · rfl
    next b hsome =>
      obtain ⟨_, _, rfl, -, -⟩ := exists_append_of_maxByKey hsome
      rw [if_pos (hafter b (by simp))]
  | cons c before ih =>
    rw [cons_append, maxByKey, ih fun b hb => hbefore b (mem_cons_of_mem c hb)]
    exact if_neg (Int.not_lt.2 (hbefore c mem_cons_self))

end MaxByKey

namespace ReleaseRegistry

/-- The first release with this id. -/
def get (registry : ReleaseRegistry) (id : String) : Option Release :=
  registry.releases.find? (·.id == id)

/-- The most recent release that a scope covers. -/
def highestAllowed (registry : ReleaseRegistry) (scope : VersionScope) : Option Release :=
  maxByKey (·.publishedAt) (registry.releases.filter (·.satisfies scope))

end ReleaseRegistry

/-- What the server decided about the release that a client reports. -/
inductive VersionDecision
  | inScope (variantId : ℕ)
  | notRegistered
  | outOfScope (highestAllowed : Option String)
  | compromised (action : CompromisedAction)
  deriving DecidableEq

/-- `decide`: compromise is checked before scope. -/
def decideVersion (registry : ReleaseRegistry) (scope : VersionScope) (reportedReleaseId : String) :
    VersionDecision :=
  match registry.get reportedReleaseId with
  | none => .notRegistered
  | some release =>
    if release.status = .compromised then
      .compromised (release.compromisedAction.getD .warn)
    else if release.satisfies scope then .inScope release.variantId
    else .outOfScope ((registry.highestAllowed scope).map (·.id))

/-- The decision lets a client have the keys of the release. -/
def VersionDecision.grants : VersionDecision → Bool
  | .inScope _ | .compromised .warn => true
  | _ => false

section Decision

variable {registry : ReleaseRegistry} {scope : VersionScope} {id : String} {release : Release}

theorem decideVersion_eq_notRegistered_iff :
    decideVersion registry scope id = .notRegistered ↔ registry.get id = none := by
  unfold decideVersion
  constructor
  · intro h
    split at h
    next hget => exact hget
    · split_ifs at h
  · intro h
    rw [h]

/-- A release that is not compromised is granted exactly when the scope covers it. -/
theorem decideVersion_grants_iff (hget : registry.get id = some release)
    (hstatus : release.status ≠ .compromised) :
    (decideVersion registry scope id).grants ↔ release.satisfies scope := by
  unfold decideVersion
  simp only [hget, if_neg hstatus]
  split_ifs with hscope
  · exact iff_of_true rfl hscope
  · exact iff_of_false Bool.false_ne_true hscope

/-- A release that its id finds and that is decided to be in scope. -/
def ReleaseRegistry.Usable (registry : ReleaseRegistry) (scope : VersionScope) (r : Release) :
    Prop :=
  registry.get r.id = some r ∧ ∃ variantId, decideVersion registry scope r.id = .inScope variantId

theorem usable_iff : registry.Usable scope release ↔
    registry.get release.id = some release ∧ release.status ≠ .compromised ∧
      release.satisfies scope := by
  refine and_congr_right fun hget => ?_
  simp only [decideVersion, hget]
  split_ifs with hstatus hscope <;> simp [*]

/-- Nothing that can be used was published after the release. -/
def ReleaseRegistry.LatestUsable (registry : ReleaseRegistry) (scope : VersionScope)
    (r : Release) : Prop :=
  ∀ r', registry.Usable scope r' → r'.publishedAt ≤ r.publishedAt

/-- The release is the latest that the scope covers, and the last of those in the registry. -/
def ReleaseRegistry.LatestCovered (registry : ReleaseRegistry) (scope : VersionScope)
    (r : Release) : Prop :=
  ∃ before after, registry.releases.filter (·.satisfies scope) = before ++ r :: after ∧
    (∀ r' ∈ before, r'.publishedAt ≤ r.publishedAt) ∧ ∀ r' ∈ after, r'.publishedAt < r.publishedAt

theorem highestAllowed_eq_some_iff :
    registry.highestAllowed scope = some release ↔ registry.LatestCovered scope release := by
  constructor
  · exact exists_append_of_maxByKey
  · rintro ⟨before, after, hreleases, hbefore, hafter⟩
    rw [ReleaseRegistry.highestAllowed, hreleases]
    exact maxByKey_append hbefore hafter

/-- A release that can be used is among those that the scope covers. -/
theorem mem_of_usable (h : registry.Usable scope release) :
    release ∈ registry.releases.filter (·.satisfies scope) :=
  mem_filter.2 ⟨mem_of_find?_eq_some h.1, (usable_iff.1 h).2.2⟩

/-- No release that can be used was published after the latest that the scope covers. -/
theorem ReleaseRegistry.LatestCovered.latestUsable (h : registry.LatestCovered scope release) :
    registry.LatestUsable scope release := by
  intro r' husable
  obtain ⟨before, after, hreleases, hbefore, hafter⟩ := h
  have hmem := mem_of_usable husable
  rw [hreleases, mem_append, mem_cons] at hmem
  obtain hmem | rfl | hmem := hmem
  · exact hbefore r' hmem
  · exact Int.le_refl _
  · exact Int.le_of_lt (hafter r' hmem)

theorem ReleaseRegistry.LatestCovered.satisfies (h : registry.LatestCovered scope release) :
    release.satisfies scope = true := by
  obtain ⟨before, after, hreleases, -, -⟩ := h
  have hmem : release ∈ registry.releases.filter (·.satisfies scope) := by
    rw [hreleases]
    exact mem_append_right before mem_cons_self
  exact (mem_filter.1 hmem).2

private theorem highest_of_outOfScope {highest : Option String}
    (h : decideVersion registry scope id = .outOfScope highest) :
    highest = (registry.highestAllowed scope).map (·.id) := by
  unfold decideVersion at h
  split at h
  · cases h
  · split_ifs at h
    cases h
    rfl

/-- Where the id of the latest covered release finds it, the suggestion is the latest release that
can be used, and there is none only where no release can be used, exactly when the latest covered
release is not compromised. -/
theorem highestAllowed_usable_iff {highest : Option String}
    (h : decideVersion registry scope id = .outOfScope highest)
    (hfound : ∀ r, registry.LatestCovered scope r → registry.get r.id = some r) :
    ((∀ named, highest = some named → ∃ r, registry.get named = some r ∧
          registry.Usable scope r ∧ registry.LatestUsable scope r) ∧
        (highest = none → ∀ r, ¬ registry.Usable scope r)) ↔
      ∀ r, registry.LatestCovered scope r → r.status ≠ .compromised := by
  obtain rfl := highest_of_outOfScope h
  simp only [← highestAllowed_eq_some_iff] at hfound ⊢
  cases hcovered : registry.highestAllowed scope with
  | none =>
    -- without a covered release, none can be used
    refine iff_of_true ⟨by simp, fun _ r husable => ?_⟩ (by simp)
    have hmem := mem_of_usable husable
    rw [maxByKey_eq_none_iff.1 hcovered] at hmem
    cases hmem
  | some covered =>
    have hget := hfound covered hcovered
    have hlatest := highestAllowed_eq_some_iff.1 hcovered
    simp only [Option.map_some, Option.some.injEq, forall_eq', reduceCtorEq, false_imp_iff,
      and_true, hget, exists_eq_left', usable_iff, true_and]
    exact ⟨fun husable => husable.1.1,
      fun hstatus => ⟨⟨hstatus, hlatest.satisfies⟩, hlatest.latestUsable⟩⟩

/-- Two releases, the first of them covered up to the instant 10. -/
def twoReleases (status : ReleaseStatus) : ReleaseRegistry where
  releases := [
    { id := "rel_1", appVersion := "3.8.0", variantId := 1, status
      compromisedAction := some .forceUpgrade, publishedAt := 10 },
    { id := "rel_2", appVersion := "4.0.0", variantId := 2, status := .active
      compromisedAction := none, publishedAt := 20 }]

/-- A compromised release is suggested, which has to be upgraded in turn. -/
theorem highestAllowed_compromised :
    decideVersion (twoReleases .compromised) (.releasedBefore 10) "rel_2" =
        .outOfScope (some "rel_1") ∧
      decideVersion (twoReleases .compromised) (.releasedBefore 10) "rel_1" =
        .compromised .forceUpgrade := by
  decide

theorem highestAllowed_active : ∃ r, (twoReleases .active).get "rel_1" = some r ∧
    (twoReleases .active).Usable (.releasedBefore 10) r := by
  have hlatest (r : Release) (h : (twoReleases .active).LatestCovered (.releasedBefore 10) r) :
      (twoReleases .active).highestAllowed (.releasedBefore 10) = some r :=
    highestAllowed_eq_some_iff.2 h
  have hrule := highestAllowed_usable_iff
    (show decideVersion (twoReleases .active) (.releasedBefore 10) "rel_2" = _ from rfl)
    (fun r h => by cases hlatest r h; rfl)
  obtain ⟨r, hget, husable, -⟩ :=
    (hrule.2 fun r h => by cases hlatest r h; decide).1 "rel_1" rfl
  exact ⟨r, hget, husable⟩

end Decision

end CopyLocker.Server
