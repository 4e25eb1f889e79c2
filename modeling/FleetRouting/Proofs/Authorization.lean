import FleetRouting.Access.Keyring
import FleetRouting.Proofs.Sequence
import FleetRouting.Proofs.SortedMap
import FleetRouting.Proofs.Text.Fold
/-!
# FleetRouting.Proofs.Authorization

**Who is let in is decided by the configured keys.** A keyring is made of the keys if each has a role that exists, and
otherwise tells the first role that does not (`Keyring.ofConfig_eq_error`). Under a digest it then has the last of the
keys (`Keyring.get?_ofConfig`). A token is found where the first header `Authorization` has one
(`Headers.presents_iff`). What comes of a request is read off from these two, whatever digests tokens
(`AuthConfig.Decides`).
-/

namespace FleetRouting

open Text

/-! ### Roles -/

namespace Role

/-- The text names a role, in any letter case and with blanks around it. -/
def IsName (s : String) : Prop := fold (trim s) ∈ ["viewer", "operator", "admin"]

variable {s : String} {role : Role}

theorem isName_iff : IsName s ↔ ∃ role : Role, fold (trim s) = role.name := by
  constructor
  · intro h
    simp only [IsName, List.mem_cons, List.not_mem_nil, or_false] at h
    rcases h with h | h | h
    · exact ⟨.viewer, h⟩
    · exact ⟨.operator, h⟩
    · exact ⟨.admin, h⟩
  · rintro ⟨role, h⟩
    cases role <;> simp [IsName, h, name]

theorem name_inj {role role' : Role} (h : role.name = role'.name) : role = role' := by
  cases role <;> cases role' <;> first | rfl | exact absurd h (by decide)

theorem read_of_name (h : fold (trim s) = role.name) : read s = .ok role := by
  simp only [read, h]
  cases role <;> rfl

theorem read_of_not_isName (h : ¬IsName s) : read s = .error (.unknownRole (fold (trim s))) := by
  have hnone : (all.find? fun role => role.name == fold (trim s)) = none := by
    rw [List.find?_eq_none]
    intro role _ heq
    exact h (isName_iff.2 ⟨role, (eq_of_beq heq).symm⟩)
  simp only [read, hnone]

theorem read_eq_ok : read s = .ok role ↔ fold (trim s) = role.name := by
  constructor
  · intro h
    by_cases hname : IsName s
    · obtain ⟨role', hrole'⟩ := isName_iff.1 hname
      obtain rfl : role' = role := Except.ok.inj ((read_of_name hrole').symm.trans h)
      exact hrole'
    · rw [read_of_not_isName hname] at h
      cases h
  · exact read_of_name

theorem read_eq_error {e : AccessError} :
    read s = .error e ↔ ¬IsName s ∧ e = .unknownRole (fold (trim s)) := by
  constructor
  · intro h
    have hname : ¬IsName s := by
      rw [isName_iff]
      rintro ⟨role, hrole⟩
      rw [read_of_name hrole] at h
      cases h
    rw [read_of_not_isName hname] at h
    exact ⟨hname, (Except.error.inj h).symm⟩
  · rintro ⟨hname, rfl⟩
    exact read_of_not_isName hname

end Role

/-! ### Tokens -/

namespace Headers

/-- The first header of a name, in any letter case, has this value. -/
def First (headers : Headers) (name value : String) : Prop :=
  ∃ older key newer, headers = older ++ (key, value) :: newer ∧ fold key = fold name ∧
    ∀ header ∈ older, fold header.1 ≠ fold name

/-- The first header `Authorization` is printable text, namely `Bearer` and behind it a token, which is not blank. -/
def Presents (headers : Headers) (token : String) : Prop :=
  ∃ value rest, headers.First "authorization" value ∧ value = "Bearer " ++ rest ∧
    (∀ c ∈ value.toList, c = '\t' ∨ 32 ≤ c.toNat ∧ c.toNat < 127) ∧ trim rest = token ∧ token ≠ ""

variable {headers headers' : Headers} {name value token : String}

theorem get?_eq_some : headers.get? name = some value ↔ headers.First name value := by
  simp only [get?, Option.map_eq_some_iff, List.find?_eq_some_iff_append, sameFolded, First, beq_iff_eq,
    Bool.not_eq_true', beq_eq_false_iff_ne]
  constructor
  · rintro ⟨⟨key, value⟩, ⟨hkey, older, newer, hheaders, holder⟩, rfl⟩
    exact ⟨older, key, newer, hheaders, hkey, holder⟩
  · rintro ⟨older, key, newer, hheaders, hkey, holder⟩
    exact ⟨⟨key, value⟩, ⟨hkey, older, newer, hheaders, holder⟩, rfl⟩

theorem tokenOf?_eq_some : Keyring.tokenOf? value = some token ↔
    ∃ rest, value = "Bearer " ++ rest ∧ (∀ c ∈ value.toList, c = '\t' ∨ 32 ≤ c.toNat ∧ c.toNat < 127) ∧
      trim rest = token ∧ token ≠ "" := by
  have htext : value.toList.all Keyring.isHeaderText = true ↔
      ∀ c ∈ value.toList, c = '\t' ∨ 32 ≤ c.toNat ∧ c.toNat < 127 := by
    simp [List.all_eq_true, Keyring.isHeaderText]
  have hrest (rest : String) : value = "Bearer " ++ rest ↔ value.toList = "Bearer ".toList ++ rest.toList := by
    rw [← String.toList_append, String.toList_inj]
  rw [Keyring.tokenOf?]
  simp only [htext, hrest]
  split
  · next hvalue =>
      simp only [Option.bind_eq_some_iff, dropStart?_eq_some, trimmed?_eq_some]
      constructor
      · rintro ⟨rest, hstart, htrim, hne⟩
        exact ⟨String.ofList rest, by simpa using hstart, hvalue, htrim, hne⟩
      · rintro ⟨rest, hstart, -, htrim, hne⟩
        exact ⟨rest.toList, hstart, by simpa using htrim, hne⟩
  · next hvalue =>
      simp only [reduceCtorEq, false_iff]
      rintro ⟨rest, -, hall, -⟩
      exact hvalue hall

/-- Headers present the token that is found in them. -/
theorem presents_iff : headers.Presents token ↔ (headers.get? "authorization").bind Keyring.tokenOf? = some token := by
  simp only [Option.bind_eq_some_iff, get?_eq_some, tokenOf?_eq_some, Presents, exists_and_left]

theorem Presents.unique {token' : String} (h : headers.Presents token) (h' : headers.Presents token') :
    token' = token := by
  rw [presents_iff] at h h'
  exact Option.some.inj (h'.symm.trans h)

/-- A header of another name is not seen. -/
theorem get?_congr (h : headers.filter (fun header => fold header.1 = fold name) =
    headers'.filter fun header => fold header.1 = fold name) : headers.get? name = headers'.get? name := by
  have hfirst (headers : Headers) :
      headers.get? name = ((headers.filter fun header => fold header.1 = fold name).head?).map Prod.snd := by
    rw [List.head?_filter]
    rfl
  rw [hfirst, hfirst, h]

end Headers

/-! ### Keys -/

/-- The last of the keys with this digest, in any letter case and with blanks around it. -/
def AuthConfig.LastKey (c : AuthConfig) (digest : String) (key : ApiKeyConfig) : Prop :=
  ∃ older newer, c.apiKeys = older ++ key :: newer ∧ fold (trim key.keySha256) = digest ∧
    ∀ key' ∈ newer, fold (trim key'.keySha256) ≠ digest

theorem AuthConfig.lastKey_iff {c : AuthConfig} {digest : String} {key : ApiKeyConfig} :
    c.LastKey digest key ↔ (c.apiKeys.reverse.find? fun key => fold (trim key.keySha256) = digest) = some key := by
  simp only [LastKey, List.find?_eq_some_iff_append, decide_eq_true_eq, Bool.not_eq_true', decide_eq_false_iff_not]
  constructor
  · rintro ⟨older, newer, hkeys, hdigest, hnewer⟩
    refine ⟨hdigest, newer.reverse, older.reverse, by simp [hkeys], ?_⟩
    intro key' hkey'
    exact hnewer key' (List.mem_reverse.1 hkey')
  · rintro ⟨hdigest, newer, older, hkeys, hnewer⟩
    refine ⟨older.reverse, newer.reverse, ?_, hdigest, ?_⟩
    · rw [← List.reverse_inj, hkeys]
      simp
    · intro key' hkey'
      exact hnewer key' (List.mem_reverse.1 hkey')

theorem AuthConfig.LastKey.unique {c : AuthConfig} {digest : String} {key key' : ApiKeyConfig}
    (h : c.LastKey digest key) (h' : c.LastKey digest key') : key' = key := by
  rw [lastKey_iff] at h h'
  exact Option.some.inj (h'.symm.trans h)

namespace Keyring

variable {c : AuthConfig} {ring : Keyring}

theorem entry_eq_ok {key : ApiKeyConfig} {e : String × Caller} :
    entry key = .ok e ↔
      e.1 = fold (trim key.keySha256) ∧ e.2.name = key.name ∧ fold (trim key.role) = e.2.role.name := by
  obtain ⟨digest, name, role⟩ := e
  rw [← Role.read_eq_ok]
  simp only [entry]
  cases Role.read key.role with
  | error => simp [bind, Except.bind]
  | ok role' => simp [bind, Except.bind, pure, Except.pure, eq_comm]

theorem entry_eq_error {key : ApiKeyConfig} {e : AccessError} :
    entry key = .error e ↔ ¬Role.IsName key.role ∧ e = .unknownRole (fold (trim key.role)) := by
  rw [← Role.read_eq_error]
  simp only [entry]
  cases Role.read key.role <;> simp [bind, Except.bind, pure, Except.pure]

theorem ofConfig_eq_ok :
    ofConfig c = .ok ring ↔ ∃ entries, c.apiKeys.mapM entry = .ok entries ∧ ring = ⟨.ofList entries⟩ := by
  simp only [ofConfig]
  cases c.apiKeys.mapM entry <;> simp [bind, Except.bind, pure, Except.pure, eq_comm]

/-- **Of a keyring, the last key with a digest is found under it.** -/
theorem get?_ofConfig (h : ofConfig c = .ok ring) (digest : String) :
    (ring.keys.get? digest = none ∧ ∀ key, ¬c.LastKey digest key) ∨
      ∃ key role, c.LastKey digest key ∧ fold (trim key.role) = Role.name role ∧
        ring.keys.get? digest = some ⟨key.name, role⟩ := by
  obtain ⟨entries, hentries, rfl⟩ := ofConfig_eq_ok.1 h
  have hfind : Option.Rel (fun key e => entry key = .ok e)
      (c.apiKeys.reverse.find? fun key => fold (trim key.keySha256) = digest)
      (entries.reverse.find? fun e => e.1 = digest) := by
    refine find?_of_forall₂ ?_ (List.forall₂_reverse_iff.2 (mapM_eq_ok.1 hentries))
    intro key e he
    rw [(entry_eq_ok.1 he).1]
  simp only [AuthConfig.lastKey_iff, SortedMap.get?_ofList]
  generalize (c.apiKeys.reverse.find? _) = key? at hfind ⊢
  generalize (entries.reverse.find? _) = e? at hfind ⊢
  cases hfind with
  | none =>
      refine .inl ⟨rfl, fun key hkey => ?_⟩
      cases hkey
  | @some key e he =>
      obtain ⟨-, hname, hrole⟩ := entry_eq_ok.1 he
      exact .inr ⟨key, e.2.role, rfl, hrole, by rw [← hname]; rfl⟩

/-- A keyring that is made of keys does not let everybody in. -/
theorem isOpen_ofConfig (h : ofConfig c = .ok ring) (hkeys : c.apiKeys ≠ []) : ring.isOpen = false := by
  have hlast : c.LastKey _ (c.apiKeys.getLast hkeys) :=
    ⟨_, [], (List.dropLast_append_getLast hkeys).symm, rfl, nofun⟩
  rcases get?_ofConfig h (fold (trim (c.apiKeys.getLast hkeys).keySha256)) with ⟨-, hnone⟩ | ⟨key, role, -, -, hknown⟩
  · exact absurd hlast (hnone _)
  · refine Bool.eq_false_iff.2 fun hopen => ?_
    have hempty : ring.keys.keys = [] := SortedMap.keys_eq_nil_of_isEmpty hopen
    have hmem := SortedMap.mem_keys.2 ⟨_, hknown⟩
    rw [hempty] at hmem
    cases hmem

theorem exists_entry_iff {key : ApiKeyConfig} : (∃ e, entry key = .ok e) ↔ Role.IsName key.role := by
  rw [Role.isName_iff]
  constructor
  · rintro ⟨e, he⟩
    exact ⟨e.2.role, (entry_eq_ok.1 he).2.2⟩
  · rintro ⟨role, hrole⟩
    exact ⟨(fold (trim key.keySha256), ⟨key.name, role⟩), entry_eq_ok.2 ⟨rfl, rfl, hrole⟩⟩

/-- **A keyring is refused for the first role that does not exist.** -/
theorem ofConfig_eq_error {e : AccessError} :
    ofConfig c = .error e ↔
      ∃ older key newer, c.apiKeys = older ++ key :: newer ∧ (∀ key' ∈ older, Role.IsName key'.role) ∧
        ¬Role.IsName key.role ∧ e = .unknownRole (fold (trim key.role)) := by
  have herror : ofConfig c = .error e ↔ c.apiKeys.mapM entry = .error e := by
    simp only [ofConfig]
    cases c.apiKeys.mapM entry <;> simp [bind, Except.bind, pure, Except.pure]
  simp only [herror, mapM_eq_error, exists_entry_iff, entry_eq_error]

theorem refused_iff : (∃ e, ofConfig c = .error e) ↔ ∃ key ∈ c.apiKeys, ¬Role.IsName key.role := by
  constructor
  · rintro ⟨e, he⟩
    obtain ⟨older, key, newer, hkeys, -, hname, -⟩ := ofConfig_eq_error.1 he
    exact ⟨key, by simp [hkeys], hname⟩
  · rintro ⟨key, hkey, hname⟩
    cases h : ofConfig c with
    | error e => exact ⟨e, rfl⟩
    | ok ring =>
        obtain ⟨entries, hentries, -⟩ := ofConfig_eq_ok.1 h
        exact absurd (exists_entry_iff.1 (exists_of_mapM_eq_ok hentries hkey)) hname

end Keyring

/-! ### Requests -/

/-- What comes of headers where a role is required. -/
inductive AuthConfig.Decides (c : AuthConfig) (digest : String → String) (headers : Headers) (required : Role) :
    Except AccessError Caller → Prop
  /-- No token is presented. -/
  | missing (h : ∀ token, ¬headers.Presents token) : c.Decides digest headers required (.error .missingToken)
  /-- No key has the digest of the token. -/
  | unknown {token : String} (h : headers.Presents token) (hkey : ∀ key, ¬c.LastKey (digest token) key) :
    c.Decides digest headers required (.error .invalidToken)
  /-- The last key with the digest of the token has a lower role. -/
  | below {token : String} {key : ApiKeyConfig} {role : Role} (h : headers.Presents token)
    (hkey : c.LastKey (digest token) key) (hrole : fold (trim key.role) = role.name)
    (hrank : role.rank < required.rank) : c.Decides digest headers required (.error .forbidden)
  /-- The last key with the digest of the token has the role that is required, or a higher one. -/
  | granted {token : String} {key : ApiKeyConfig} {role : Role} (h : headers.Presents token)
    (hkey : c.LastKey (digest token) key) (hrole : fold (trim key.role) = role.name)
    (hrank : required.rank ≤ role.rank) : c.Decides digest headers required (.ok ⟨key.name, role⟩)

/-- Headers are decided in one way. -/
theorem AuthConfig.Decides.unique {c : AuthConfig} {digest : String → String} {headers : Headers} {required : Role}
    {result result' : Except AccessError Caller} (h : c.Decides digest headers required result)
    (h' : c.Decides digest headers required result') : result' = result := by
  cases h with
  | missing h =>
      cases h' with
      | missing => rfl
      | unknown h' | below h' | granted h' => exact absurd h' (h _)
  | unknown h hkey =>
      cases h' with
      | missing h' => exact absurd h (h' _)
      | unknown => rfl
      | below h' hkey' | granted h' hkey' =>
          obtain rfl := h.unique h'
          exact absurd hkey' (hkey _)
  | below h hkey hrole hrank =>
      cases h' with
      | missing h' => exact absurd h (h' _)
      | unknown h' hkey' =>
          obtain rfl := h.unique h'
          exact absurd hkey (hkey' _)
      | below => rfl
      | granted h' hkey' hrole' hrank' =>
          obtain rfl := h.unique h'
          obtain rfl := hkey.unique hkey'
          obtain rfl := Role.name_inj (hrole.symm.trans hrole')
          exact absurd hrank' (Nat.not_le.2 hrank)
  | granted h hkey hrole hrank =>
      cases h' with
      | missing h' => exact absurd h (h' _)
      | unknown h' hkey' =>
          obtain rfl := h.unique h'
          exact absurd hkey (hkey' _)
      | below h' hkey' hrole' hrank' =>
          obtain rfl := h.unique h'
          obtain rfl := hkey.unique hkey'
          obtain rfl := Role.name_inj (hrole.symm.trans hrole')
          exact absurd hrank (Nat.not_le.2 hrank')
      | granted h' hkey' hrole' =>
          obtain rfl := h.unique h'
          obtain rfl := hkey.unique hkey'
          obtain rfl := Role.name_inj (hrole.symm.trans hrole')
          rfl

namespace Keyring

variable {c : AuthConfig} {ring : Keyring} {digest : String → String} {headers headers' : Headers}
  {required lower : Role}

theorem authorizeWith_eq (ring : Keyring) (digest : String → String) (headers : Headers) (required : Role) :
    authorizeWith digest ring headers required =
      (authenticateWith digest ring headers).bind fun caller =>
        if required.rank ≤ caller.role.rank then .ok caller else .error .forbidden := by
  simp only [authorizeWith, Role.includes, decide_eq_true_eq]
  rfl

/-- The token that is presented decides who asks. -/
theorem authenticateWith_of_presents (hclosed : ring.isOpen = false) {token : String} (h : headers.Presents token) :
    authenticateWith digest ring headers =
      match ring.keys.get? (digest token) with
      | some caller => .ok caller
      | none => .error .invalidToken := by
  rw [Headers.presents_iff] at h
  simp only [authenticateWith, hclosed, h]
  rfl

theorem authenticateWith_of_not_presents (hclosed : ring.isOpen = false) (h : ∀ token, ¬headers.Presents token) :
    authenticateWith digest ring headers = .error .missingToken := by
  have hnone : (headers.get? "authorization").bind tokenOf? = none := by
    refine Option.eq_none_iff_forall_ne_some.2 fun token htoken => ?_
    exact h token (Headers.presents_iff.2 htoken)
  simp only [authenticateWith, hclosed, hnone]
  rfl

/-- **What comes of headers is what the configured keys say.** -/
theorem decides_authorizeWith (h : ofConfig c = .ok ring) (hkeys : c.apiKeys ≠ []) (digest : String → String)
    (headers : Headers) (required : Role) :
    c.Decides digest headers required (authorizeWith digest ring headers required) := by
  have hclosed := isOpen_ofConfig h hkeys
  rw [authorizeWith_eq]
  by_cases hpresents : ∃ token, headers.Presents token
  · obtain ⟨token, htoken⟩ := hpresents
    rw [authenticateWith_of_presents hclosed htoken]
    rcases get?_ofConfig h (digest token) with ⟨hnone, hkey⟩ | ⟨key, role, hkey, hrole, hknown⟩
    · rw [hnone]
      exact .unknown htoken hkey
    · rw [hknown]
      show c.Decides digest headers required (if required.rank ≤ role.rank then .ok ⟨key.name, role⟩ else _)
      split
      · next hrank => exact .granted htoken hkey hrole hrank
      · next hrank => exact .below htoken hkey hrole (Nat.lt_of_not_le hrank)
  · have hmissing := not_exists.1 hpresents
    rw [authenticateWith_of_not_presents hclosed hmissing]
    exact .missing hmissing

/-- Who has a role has the lower ones. -/
theorem authorizeWith_mono {caller : Caller} (hrank : lower.rank ≤ required.rank)
    (h : authorizeWith digest ring headers required = .ok caller) :
    authorizeWith digest ring headers lower = .ok caller := by
  rw [authorizeWith_eq] at h ⊢
  cases hcaller : authenticateWith digest ring headers with
  | error e =>
      rw [hcaller] at h
      cases h
  | ok caller' =>
      simp only [hcaller, Except.bind] at h ⊢
      split at h
      · next hreach =>
          rw [if_pos (Nat.le_trans hrank hreach)]
          exact h
      · cases h

theorem authorizeWith_congr (h : headers.filter (fun header => fold header.1 = "authorization") =
      headers'.filter fun header => fold header.1 = "authorization") :
    authorizeWith digest ring headers required = authorizeWith digest ring headers' required := by
  have hname : fold "authorization" = "authorization" := by decide +kernel
  have hget : headers.get? "authorization" = headers'.get? "authorization" := by
    apply Headers.get?_congr
    rwa [hname]
  simp only [authorizeWith, authenticateWith, hget]

/-- **Who is let in is decided by the configured keys.** Keys are refused if and only if the role of one, without blanks
around it and in small letters, is not `viewer`, `operator` or `admin`, and the first such role is told. With accepted
keys, at least one, and whatever digests tokens, requests are decided in these cases, in this order: the first header
`Authorization` presents no token; no key has the digest of the token; the last key that has it has a lower role than the
required one; otherwise the caller is let in with the name and the role of that key. A caller that is let in for a role
is let in for the lower ones, and headers of other names make no difference. -/
theorem authorized_by_keys (c : AuthConfig) :
    ((∃ e, ofConfig c = .error e) ↔ ∃ key ∈ c.apiKeys, ¬Role.IsName key.role) ∧
      (∀ e, ofConfig c = .error e ↔
        ∃ older key newer, c.apiKeys = older ++ key :: newer ∧ (∀ key' ∈ older, Role.IsName key'.role) ∧
          ¬Role.IsName key.role ∧ e = .unknownRole (fold (trim key.role))) ∧
      ∀ ring digest, ofConfig c = .ok ring →
        (c.apiKeys ≠ [] → ∀ headers required result,
          authorizeWith digest ring headers required = result ↔ c.Decides digest headers required result) ∧
        (∀ headers required lower caller, lower.rank ≤ required.rank →
          authorizeWith digest ring headers required = .ok caller →
          authorizeWith digest ring headers lower = .ok caller) ∧
        ∀ headers headers' required,
          headers.filter (fun header => fold header.1 = "authorization") =
            headers'.filter (fun header => fold header.1 = "authorization") →
          authorizeWith digest ring headers required = authorizeWith digest ring headers' required := by
  refine ⟨refused_iff, fun e => ofConfig_eq_error, ?_⟩
  intro ring digest h
  refine ⟨?_, fun _ _ _ _ => authorizeWith_mono, fun _ _ _ => authorizeWith_congr⟩
  intro hkeys headers required result
  have hdecides := decides_authorizeWith h hkeys digest headers required
  constructor
  · rintro rfl
    exact hdecides
  · intro hresult
    exact hresult.unique hdecides

/-- Two keys have one digest, in different letter case: the later one counts, though its role is lower. -/
example :
    let c : AuthConfig := ⟨[⟨"AB", "Admin", none⟩, ⟨" ab", "viewer ", some "v"⟩]⟩
    let headers : Headers := [("Accept", "*/*"), ("authorization", "Bearer  t"), ("authorization", "u")]
    (ofConfig c).toOption.map (fun ring => authorizeWith (fun _ => "ab") ring headers .operator) =
      some (.error .forbidden) := by
  decide +kernel

end Keyring

end FleetRouting
