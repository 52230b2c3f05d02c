import CopyLocker.Foundation.Result
import CopyLocker.Server.Version

/-!
# Cube keys

The keys of the nine fixed cubes (`analytics/cube.rs`) and their text form: the number of the cube
and its dimensions, with a bar before each dimension. The parser reads the number as Rust reads an
integer, so leading zeros and a plus sign are read as well, which the writer never writes.
-/

namespace CopyLocker.Server

open Foundation List Nat

def maxDimValueLen : ℕ := 256

def maxCubeKeyLen : ℕ := 1024

/-- The names of the dimensions of each cube. -/
def cubeDimensions : List (List String) :=
  [["product"], ["product", "app_version"], ["product", "os", "arch"], ["product", "country"],
    ["product", "activation_path"], ["product", "mode"], ["product", "release_id"],
    ["product", "policy_id"], ["product", "sdk_version"]]

/-- What is wrong with a key. -/
inductive CubeKeyError
  | unknownCube (cube : ℕ)
  | malformed
  | wrongDimensionCount (cube expected got : ℕ)
  | emptyDimension
  | dimensionTooLong
  | invalidCharacter
  | keyTooLong
  deriving DecidableEq

/-- The length of a text in UTF-8. -/
def byteLength (s : List Char) : ℕ := (s.map Char.utf8Size).sum

/-- A value is not empty, not too long and without the separator. -/
def checkDim (d : List Char) : Except CubeKeyError Unit :=
  if d = [] then .error .emptyDimension
  else if maxDimValueLen < byteLength d then .error .dimensionTooLong
  else if '|' ∈ d then .error .invalidCharacter
  else .ok ()

/-- The values fit the dimensions of the cube. -/
def checkDims (cube : ℕ) (dims : List (List Char)) : Except CubeKeyError Unit :=
  match cubeDimensions[cube]? with
  | none => .error (.unknownCube cube)
  | some names =>
    if names.length ≠ dims.length then
      .error (.wrongDimensionCount cube names.length dims.length)
    else dims.forM checkDim

/-- A cube and the values of its dimensions. -/
structure CubeKey where
  cube : ℕ
  dims : List (List Char)
  valid : checkDims cube dims = .ok ()

namespace CubeKey

/-- A checked key. -/
def new (cube : ℕ) (dims : List (List Char)) : Except CubeKeyError CubeKey :=
  match h : checkDims cube dims with
  | .ok () => .ok ⟨cube, dims, h⟩
  | .error e => .error e

/-- The text form, `cube_<n>|<dim>|...`. -/
def encode (key : CubeKey) : List Char :=
  "cube_".toList ++ Nat.toDigits 10 key.cube ++ key.dims.flatMap ('|' :: ·)

/-- `str::parse::<u8>`. -/
def parseU8 (s : List Char) : Option ℕ := (parseU64 s).filter fun n => decide (n < 256)

/-- `strip_prefix("cube_")`. -/
def cubeNumber : List Char → Option (List Char)
  | 'c' :: 'u' :: 'b' :: 'e' :: '_' :: number => some number
  | _ => none

/-- Read a key from its text. -/
def parse (encoded : List Char) : Except CubeKeyError CubeKey :=
  if maxCubeKeyLen < byteLength encoded then .error .keyTooLong
  else
    match encoded.splitOn '|' with
    | [] => .error .malformed
    | head :: dims =>
      match (cubeNumber head).bind parseU8 with
      | none => .error .malformed
      | some cube => new cube dims

variable {cube : ℕ} {dims : List (List Char)} {key : CubeKey} {s : List Char}

theorem new_eq_ok : new cube dims = .ok key ↔ key.cube = cube ∧ key.dims = dims := by
  unfold new
  constructor
  · intro h
    split at h
    · cases h
      exact ⟨rfl, rfl⟩
    · cases h
  · rintro ⟨rfl, rfl⟩
    split
    · rfl
    next h => cases key.valid.symm.trans h

/-- What a valid key is made of. -/
theorem bounds (key : CubeKey) : key.cube < 9 ∧ key.dims.length ≤ 3 ∧
    ∀ d ∈ key.dims, byteLength d ≤ maxDimValueLen ∧ '|' ∉ d := by
  have h := key.valid
  unfold checkDims at h
  split at h
  · cases h
  next names hnames =>
    split_ifs at h with hlength
    have hthree : ∀ names ∈ cubeDimensions, names.length ≤ 3 := by decide
    refine ⟨(List.getElem?_eq_some_iff.1 hnames).1, ?_, fun d hd => ?_⟩
    · rw [← not_not.1 hlength]
      exact hthree names (mem_of_getElem? hnames)
    · have hd := Result.forM_eq_ok.1 h d hd
      unfold checkDim at hd
      split_ifs at hd with _ hlong hbar
      exact ⟨not_lt.1 hlong, hbar⟩

theorem intercalate_bar (head : List Char) (dims : List (List Char)) :
    ['|'].intercalate (head :: dims) = head ++ dims.flatMap ('|' :: ·) := by
  induction dims generalizing head with
  | nil => simp
  | cons d dims ih => simp [intercalate_cons_cons, ih]

private theorem byteLength_append (s t : List Char) :
    byteLength (s ++ t) = byteLength s + byteLength t := by
  simp [byteLength]

theorem byteLength_encode_le (key : CubeKey) : byteLength key.encode ≤ maxCubeKeyLen := by
  obtain ⟨hcube, hlength, hdims⟩ := key.bounds
  have hhead : ∀ n < 9, byteLength ("cube_".toList ++ toDigits 10 n) = 6 := by decide
  have hrest (dims : List (List Char)) (h : ∀ d ∈ dims, byteLength d ≤ maxDimValueLen ∧ '|' ∉ d) :
      byteLength (dims.flatMap ('|' :: ·)) ≤ dims.length * 257 := by
    induction dims with
    | nil => simp [byteLength]
    | cons d dims ih =>
      obtain ⟨hd, hdims⟩ := forall_mem_cons.1 h
      have hbar : byteLength ('|' :: d) = 1 + byteLength d := by simp [byteLength]; rfl
      have hmax : maxDimValueLen = 256 := rfl
      rw [flatMap_cons, byteLength_append, hbar, length_cons]
      have := ih hdims
      omega
  rw [encode, byteLength_append, hhead _ hcube]
  have := hrest key.dims hdims
  have hmax : maxCubeKeyLen = 1024 := rfl
  omega

theorem parseU8_singleton {c : Char} {n : ℕ} (h : parseU8 [c] = some n) : toDigits 10 n = [c] := by
  have hdigits : ∀ k < 10, toDigits 10 k = [Char.ofNat (48 + k)] := by decide
  unfold parseU8 at h
  obtain ⟨h, -⟩ := Option.filter_eq_some_iff.1 h
  by_cases hplus : c = '+'
  · simp [parseU64, hplus] at h
  · obtain ⟨⟨hdigit, -⟩, rfl⟩ : (c.isDigit ∧ _) ∧ c.toNat - 48 = n := by
      simpa [parseU64, hplus, decimal] using h
    obtain ⟨hzero, hnine⟩ : 48 ≤ c.toNat ∧ c.toNat ≤ 57 := by
      simpa [Char.isDigit, UInt32.le_iff_toNat_le] using hdigit
    rw [hdigits _ (by omega), Nat.add_sub_cancel' hzero, Char.ofNat_toNat]

theorem parseU8_toDigits : ∀ n < 9,
    parseU8 (toDigits 10 n) = some n ∧ (toDigits 10 n).length = 1 ∧ '|' ∉ toDigits 10 n := by
  decide

private theorem cubeNumber_eq_some {head number : List Char} :
    cubeNumber head = some number ↔ head = "cube_".toList ++ number := by
  unfold cubeNumber
  split
  · simp [eq_comm]
  next h =>
    refine iff_of_false nofun fun heq => h number ?_
    simpa using heq

theorem parse_eq_ok : parse s = .ok key ↔ byteLength s ≤ maxCubeKeyLen ∧
    ∃ number, s = "cube_".toList ++ number ++ key.dims.flatMap ('|' :: ·) ∧ '|' ∉ number ∧
      parseU8 number = some key.cube := by
  unfold parse
  constructor
  · intro h
    split_ifs at h with hlong
    refine ⟨not_lt.1 hlong, ?_⟩
    split at h
    · cases h
    next head dims hsplit =>
      split at h
      · cases h
      next cube hcube =>
        obtain ⟨rfl, rfl⟩ := new_eq_ok.1 h
        obtain ⟨number, hnumber, hcube⟩ := Option.bind_eq_some_iff.1 hcube
        rw [cubeNumber_eq_some] at hnumber
        have hbar := of_mem_splitOnP (p := (· == '|')) (hsplit ▸ mem_cons_self)
        have hjoin : ['|'].intercalate (s.splitOn '|') = s := intercalate_splitOn '|'
        refine ⟨number, ?_, ?_, hcube⟩
        · rw [← hjoin, hsplit, intercalate_bar, hnumber]
        · exact fun hmem => by simpa using (hbar '|' (by simp [hnumber, hmem])).2
  · rintro ⟨hlength, number, rfl, hbar, hcube⟩
    rw [if_neg (not_lt.2 hlength), ← intercalate_bar, splitOn_intercalate '|' ?_ (cons_ne_nil _ _)]
    · simp only [cubeNumber_eq_some.2 rfl, Option.bind_some, hcube]
      exact new_eq_ok.2 ⟨rfl, rfl⟩
    · exact forall_mem_cons.2 ⟨by simpa using hbar, fun d hd => (key.bounds.2.2 d hd).2⟩

end CubeKey

open CubeKey

/-- A key is read back from its text. A text that is accepted is that of its key exactly if one
character stands for the number of the cube. -/
theorem cube_key_round_trips (s : List Char) (key : CubeKey) :
    parse key.encode = .ok key ∧ (parse s = .ok key → (key.encode = s ↔ s.idxOf '|' = 6)) := by
  obtain ⟨hcube, -, hdims⟩ := key.bounds
  obtain ⟨hnumber, hone, hbar⟩ := parseU8_toDigits _ hcube
  refine ⟨parse_eq_ok.2 ⟨key.byteLength_encode_le, _, rfl, hbar, hnumber⟩, fun h => ?_⟩
  obtain ⟨-, number, rfl, hbar', hnumber'⟩ := parse_eq_ok.1 h
  have hfirst : (key.dims.flatMap ('|' :: ·)).idxOf '|' = 0 := by cases key.dims <;> simp
  rw [encode, append_left_inj, append_right_inj, idxOf_append, if_neg (by simpa using hbar'),
    hfirst]
  constructor
  · rintro rfl
    simp [hone]
  · intro hlength
    obtain ⟨c, rfl⟩ := length_eq_one_iff.1 (show number.length = 1 by simpa using hlength)
    exact parseU8_singleton hnumber'

/-- The key of the product `app` in the first cube. -/
def appKey : CubeKey := ⟨0, ["app".toList], by decide⟩

/-- Another text of a key: the number may have a plus sign. -/
theorem plus_sign_names_the_same_key :
    parse "cube_+0|app".toList = .ok appKey ∧ parse "cube_0|app".toList = .ok appKey ∧
      appKey.encode = "cube_0|app".toList := by
  refine ⟨parse_eq_ok.2 ⟨by decide, ['+', '0'], ?_⟩, parse_eq_ok.2 ⟨by decide, ['0'], ?_⟩, ?_⟩
  all_goals decide

end CopyLocker.Server
