import SchemaCatalog.Proofs.Rpc.Exchange

/-!
# Where calls go

The path for calls is put behind the address of a client as it is, so that the address decides what a call asks
for. That of a server itself has a scheme and a place, and nothing that would end the place
(`Client.IsRoot`); there, calls go to `/rpc` (`Client.path_of_ask`). A client has such an address if it has
connected to a place, or to a scheme and a place with any number of slashes (`Client.isRoot_of_connect`).
-/

namespace SchemaCatalog

namespace Http.Url

/-- A host as it stands in an address, perhaps with a port, and with a name before it: it goes on to its end. -/
structure IsPlace (place : List Char) : Prop where
  ne_nil : place ≠ []
  visible : ∀ c ∈ place, 0x20 < c.toNat
  goes_on : ∀ c ∈ place, c ≠ '/' ∧ c ≠ '\\' ∧ c ≠ '?' ∧ c ≠ '#'

variable {place cs : List Char} {url : Url}

theorem IsPlace.isSlash (h : IsPlace place) {c : Char} (hc : c ∈ place) : Url.isSlash c = false := by
  obtain ⟨hslash, hbackslash, _⟩ := h.goes_on c hc
  simp [Url.isSlash, hslash, hbackslash]

/-- Visible characters are all kept. -/
theorem tidy_eq_self (visible : ∀ c ∈ cs, 0x20 < c.toNat) : tidy cs = cs := by
  have hbare : ∀ {ds : List Char}, (∀ c ∈ ds, 0x20 < c.toNat) →
      ds.dropWhile (fun c => decide (c.toNat ≤ 0x20)) = ds := by
    intro ds hds
    cases ds with
    | nil => rfl
    | cons c ds => exact List.dropWhile_cons_of_neg (by simpa using hds c List.mem_cons_self)
  unfold tidy
  dsimp only
  rw [hbare visible, hbare fun c hc => visible c (List.mem_reverse.mp hc), List.reverse_reverse,
    List.filter_eq_self]
  intro c hc
  have hne : ∀ d : Char, d.toNat ≤ 0x20 → c ≠ d := by
    rintro d hd rfl
    exact absurd (visible c hc) (Nat.not_lt.mpr hd)
  simp [hne '\t' (by decide), hne '\n' (by decide), hne '\r' (by decide)]

/-- Behind a place, `/rpc` is the whole path. -/
theorem target_of_afterScheme {secure : Bool} (h : IsPlace place)
    (hparse : afterScheme? secure ("//".toList ++ (place ++ "/rpc".toList)) = some url) :
    url.target = "/rpc" := by
  -- The slashes before the place do not count, and the first one behind it ends the authority.
  have hrest : ("//".toList ++ (place ++ "/rpc".toList)).dropWhile isSlash = place ++ "/rpc".toList := by
    obtain ⟨c, cs, rfl⟩ := List.exists_cons_of_ne_nil h.ne_nil
    show (c :: (cs ++ "/rpc".toList)).dropWhile isSlash = _
    rw [List.dropWhile_cons_of_neg (ne_true_of_eq_false (h.isSlash List.mem_cons_self))]
    rfl
  have hauthority : (place ++ "/rpc".toList).takeWhile
      (fun c => !(isSlash c || decide (c = '?') || decide (c = '#'))) = place := by
    rw [List.takeWhile_append_of_pos]
    · show place ++ [] = place
      exact List.append_nil place
    · intro c hc
      obtain ⟨_, _, hquery, hfragment⟩ := h.goes_on c hc
      simp [h.isSlash hc, hquery, hfragment]
  have htail : (place ++ "/rpc".toList).drop place.length = "/rpc".toList := List.drop_left
  unfold afterScheme? at hparse
  simp only [hrest, hauthority, htail] at hparse
  obtain ⟨⟨host, port⟩, -, hurl⟩ := Option.bind_eq_some_iff.mp hparse
  rw [← Option.some.inj hurl]
  show "/" ++ String.intercalate "/" (segments _) ++
    String.ofList ((String.ofList (escapedSuffix _)).toList.takeWhile (· != '#')) = "/rpc"
  decide +kernel

/-- The scheme tells how what is behind it is read. -/
theorem parse_append {scheme : List Char} (hscheme : ∀ c ∈ scheme, 0x20 < c.toNat ∧ c ≠ ':')
    (visible : ∀ c ∈ cs, 0x20 < c.toNat) :
    parse (String.ofList (scheme ++ ':' :: cs)) =
      if lowerAscii (String.ofList scheme) = "http" then afterScheme? false cs
      else if lowerAscii (String.ofList scheme) = "https" then afterScheme? true cs
      else none := by
  have hall : ∀ c ∈ scheme ++ ':' :: cs, 0x20 < c.toNat :=
    List.forall_mem_append.mpr ⟨fun c hc => (hscheme c hc).1,
      List.forall_mem_cons.mpr ⟨by decide, visible⟩⟩
  have hne : ∀ c ∈ scheme, (c != ':') = true := fun c hc => bne_iff_ne.mpr (hscheme c hc).2
  have htake : (scheme ++ ':' :: cs).takeWhile (· != ':') = scheme := by
    rw [List.takeWhile_append_of_pos hne, List.takeWhile_cons_of_neg (by decide), List.append_nil]
  have hdrop : (scheme ++ ':' :: cs).dropWhile (· != ':') = ':' :: cs := by
    rw [List.dropWhile_append_of_pos hne, List.dropWhile_cons_of_neg (by decide)]
  rw [parse, String.toList_ofList, tidy_eq_self hall, htake, hdrop]
  rfl

/-- Whatever the scheme, `/rpc` behind a place is the whole path. -/
theorem target_of_parse {scheme : List Char} (hscheme : ∀ c ∈ scheme, 0x20 < c.toNat ∧ c ≠ ':')
    (h : IsPlace place)
    (hparse : parse (String.ofList (scheme ++ ':' :: ("//".toList ++ (place ++ "/rpc".toList)))) =
      some url) : url.target = "/rpc" := by
  have visible : ∀ c ∈ "//".toList ++ (place ++ "/rpc".toList), 0x20 < c.toNat :=
    List.forall_mem_append.mpr ⟨by simp, List.forall_mem_append.mpr ⟨h.visible, by simp⟩⟩
  rw [parse_append hscheme visible] at hparse
  split_ifs at hparse
  · exact target_of_afterScheme h hparse
  · exact target_of_afterScheme h hparse

end Http.Url

namespace Rpc.Client

open Http (Url)

/-- The address of a server itself. -/
inductive IsRoot : String → Prop where
  | plain {place : String} (h : Url.IsPlace place.toList) : IsRoot ("http://" ++ place)
  | secure {place : String} (h : Url.IsPlace place.toList) : IsRoot ("https://" ++ place)

variable {α : Type} {base : String} {url : Url} {c : Client} {query : Query α} {r : Http.Request}

/-- The path for calls of a server is right below its address. -/
theorem target_of_callUrl (root : IsRoot base) (hurl : callUrl? base = some url) :
    url.target = "/rpc" := by
  cases root with
  | @plain place h =>
    have htext : "http://" ++ place ++ "/rpc" =
        String.ofList ("http".toList ++ ':' :: ("//".toList ++ (place.toList ++ "/rpc".toList))) := by
      apply String.toList_injective
      simp
    rw [callUrl?, htext] at hurl
    exact Url.target_of_parse (by simp) h hurl
  | @secure place h =>
    have htext : "https://" ++ place ++ "/rpc" =
        String.ofList ("https".toList ++ ':' :: ("//".toList ++ (place.toList ++ "/rpc".toList))) := by
      apply String.toList_injective
      simp
    rw [callUrl?, htext] at hurl
    exact Url.target_of_parse (by simp) h hurl

/-- **The calls of a client of a server itself go to the path for calls.** -/
theorem path_of_ask (root : IsRoot c.base) (sent : (c.ask query).2 = some r) : r.path = "/rpc" := by
  obtain ⟨url, hurl, -, rfl⟩ := exists_url_of_ask sent
  show (⟨"POST", url.target, [], []⟩ : Http.Request).path = "/rpc"
  rw [target_of_callUrl root hurl]
  decide +kernel

/-- Behind a number sign, the path for calls is not asked for at all. -/
example : (callUrl? "http://localhost:8080/health#").map Url.target = some "/health" := by
  decide +kernel

/-! ### Connecting -/

/-- The address of a server as it may be given: a place alone, or the whole address, with slashes behind it. -/
inductive NamesRoot : String → Prop where
  | place {place : String} (h : Url.IsPlace place.toList) : NamesRoot place
  | whole {base : String} (root : IsRoot base) (slashes : Nat) :
      NamesRoot (base ++ String.ofList (List.replicate slashes '/'))

theorem namesScheme_place {place : String} (h : Url.IsPlace place.toList) :
    namesScheme place.toList = false := by
  have hslash : '/' ∉ place.toList := fun hmem => (h.goes_on '/' hmem).1 rfl
  have hschemes : '/' ∈ "http://".toList ∧ '/' ∈ "https://".toList := by decide +kernel
  rw [namesScheme, Bool.or_eq_false_iff, ← Bool.not_eq_true, ← Bool.not_eq_true,
    List.isPrefixOf_iff_prefix, List.isPrefixOf_iff_prefix]
  exact ⟨fun h => hslash (h.mem hschemes.1), fun h => hslash (h.mem hschemes.2)⟩

theorem IsRoot.namesScheme (root : IsRoot base) (cs : List Char) :
    namesScheme (base.toList ++ cs) = true := by
  rw [Client.namesScheme, Bool.or_eq_true, List.isPrefixOf_iff_prefix, List.isPrefixOf_iff_prefix]
  cases root with
  | plain h =>
    rw [String.toList_append, List.append_assoc]
    exact .inl (List.prefix_append _ _)
  | secure h =>
    rw [String.toList_append, List.append_assoc]
    exact .inr (List.prefix_append _ _)

theorem IsRoot.getLast?_ne (root : IsRoot base) : base.toList.getLast? ≠ some '/' := by
  have hplace : ∀ {place : String}, Url.IsPlace place.toList → ∀ scheme : String,
      (scheme ++ place).toList.getLast? ≠ some '/' := by
    intro place h scheme hlast
    rw [String.toList_append, List.getLast?_append_of_ne_nil _ h.ne_nil] at hlast
    exact (h.goes_on '/' (List.mem_of_getLast? hlast)).1 rfl
  cases root with
  | plain h => exact hplace h _
  | secure h => exact hplace h _

/-- Slashes behind an address do not count. -/
theorem baseOf_append_slashes (root : IsRoot base) (slashes : Nat) :
    baseOf (base ++ String.ofList (List.replicate slashes '/')) = base := by
  have hne : base.toList ≠ [] := by
    intro hnil
    have hscheme := root.namesScheme []
    rw [hnil] at hscheme
    revert hscheme
    decide +kernel
  have hslashes : (List.replicate slashes '/').rdropWhile (· = '/') = [] := by
    rw [List.rdropWhile_eq_nil_iff]
    intro c hc
    exact decide_eq_true (List.eq_of_mem_replicate hc)
  have htrim : (base.toList ++ List.replicate slashes '/').rdropWhile (· = '/') = base.toList := by
    rw [Text.rdropWhile_append hne root.getLast?_ne, hslashes, List.append_nil]
  rw [baseOf, String.toList_append, String.toList_ofList, if_pos (root.namesScheme _)]
  exact (congrArg String.ofList htrim).trans String.ofList_toList

theorem base_of_connect {address : String} {receiveLimit : Nat} {health : Option Http.Reply}
    (connected : connect address receiveLimit health = .ok c) : c.base = baseOf address := by
  unfold connect at connected
  extract_lets base at connected
  generalize healthUrl? base = url at connected
  cases url with
  | none => cases connected
  | some url =>
    cases health with
    | none => cases connected
    | some reply =>
      dsimp only at connected
      split_ifs at connected
      rw [← Except.ok.inj connected]

/-- A client that has connected to a server is one of the server itself. -/
theorem isRoot_of_connect {address : String} {receiveLimit : Nat} {health : Option Http.Reply}
    (names : NamesRoot address) (connected : connect address receiveLimit health = .ok c) :
    IsRoot c.base := by
  rw [base_of_connect connected]
  cases names with
  | place h =>
    rw [baseOf, namesScheme_place h, if_neg (by decide)]
    exact .plain h
  | whole root slashes =>
    rw [baseOf_append_slashes root slashes]
    exact root

end Rpc.Client

end SchemaCatalog
