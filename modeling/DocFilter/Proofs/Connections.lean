import Mathlib.Data.List.DropRight
import DocFilter.Proofs.Handles

/-!
# From an environment to a client

An environment decides in full what comes of connecting by it: whether a
client is created at all, and with which address, schema and headers. A
variable that is empty counts as one that is not set
(`Environment.Blank`) – except the schema, which is taken as it is set – and
of the two addresses, as of the two keys, the second is asked where the first
is blank.

The address of a hosted project loses the slashes at its end, however many
there are, before the path of its backend is put behind it. What is left has
no slash at its end, and the address is what is left with some slashes behind
it; no other text is like that, so the slashes make no difference
(`Settings.projectUrl_append_slashes`).

The main statement is `Settings.connects_as_environment_says`.
-/

namespace DocFilter

/-- **Whether a variable says nothing**: it is not set, or it is empty. -/
abbrev Environment.Blank (x : Option String) : Prop := x.getD "" = ""

namespace Settings

open Environment (Blank)

/-! ## Variables -/

theorem nonempty?_of_blank {x : Option String} (h : Blank x) :
    nonempty? x = none := by
  cases x with
  | none => rfl
  | some s => exact if_pos h

theorem nonempty?_of_ne_empty {x : Option String} {s : String}
    (hx : x = some s) (hne : s ≠ "") : nonempty? x = some s := by
  rw [hx]
  exact if_neg hne

/-- A variable that says something is set. -/
theorem exists_of_not_blank {x : Option String} (h : ¬ Blank x) :
    ∃ s, x = some s ∧ s ≠ "" := by
  cases x with
  | none => exact absurd rfl h
  | some s => exact ⟨s, rfl, h⟩

/-- What a variable says counts as true. -/
theorem isTruthy_ofText?_iff {x : Option String} :
    (ofText? x).isTruthy = true ↔ ¬ Blank x := by
  cases x with
  | none => exact iff_of_false Bool.false_ne_true (not_not_intro rfl)
  | some s => exact bne_iff_ne

/-! ## The slashes at the end of an address -/

/-- A number of slashes. -/
def slashes (n : Nat) : String := String.ofList (List.replicate n '/')

/-- Slashes at the end are dropped. -/
theorem dropSlashes_append_replicate (cs : List Char) (n : Nat) :
    dropSlashes (cs ++ List.replicate n '/') = dropSlashes cs := by
  induction n with
  | zero => rw [List.replicate_zero, List.append_nil]
  | succ n ih =>
    rw [List.replicate_succ', ← List.append_assoc, ← ih]
    exact List.rdropWhile_concat_pos _ _ '/' rfl

/-- Nothing but slashes is dropped. -/
theorem exists_dropSlashes_append (cs : List Char) :
    ∃ n, cs = dropSlashes cs ++ List.replicate n '/' := by
  refine ⟨(cs.rtakeWhile (· = '/')).length, ?_⟩
  have hslashes : cs.rtakeWhile (· = '/')
      = List.replicate (cs.rtakeWhile (· = '/')).length '/' :=
    List.eq_replicate_of_mem fun c hc =>
      of_decide_eq_true (List.mem_rtakeWhile_imp (p := (· = '/')) hc)
  rw [← hslashes]
  exact List.rdropWhile_append_rtakeWhile.symm

/-- No slash is left at the end. -/
theorem getLast?_dropSlashes (cs : List Char) :
    (dropSlashes cs).getLast? ≠ some '/' := by
  intro hlast
  have hne : dropSlashes cs ≠ [] := by
    intro hnil
    rw [hnil] at hlast
    exact nomatch hlast
  rw [List.getLast?_eq_some_getLast hne] at hlast
  exact List.rdropWhile_last_not _ cs hne
    (decide_eq_true (Option.some.inj hlast))

/-- **Slashes at the end of a project's address** make no difference. -/
theorem projectUrl_append_slashes (s : String) (n : Nat) :
    projectUrl (s ++ slashes n) = projectUrl s := by
  unfold projectUrl slashes
  rw [String.toList_append, String.toList_ofList,
    dropSlashes_append_replicate]

/-- **The address of a project's backend**: the address of the project, up to
the slashes at its end, and the path. -/
theorem exists_projectUrl_eq (s : String) :
    ∃ base n, s = base ++ slashes n ∧ base.toList.getLast? ≠ some '/'
      ∧ projectUrl s = base ++ "/rest/v1" := by
  obtain ⟨n, hn⟩ := exists_dropSlashes_append s.toList
  refine ⟨String.ofList (dropSlashes s.toList), n, ?_, ?_, rfl⟩
  · refine String.toList_inj.mp ?_
    rw [String.toList_append, String.toList_ofList, slashes,
      String.toList_ofList]
    exact hn
  · rw [String.toList_ofList]
    exact getLast?_dropSlashes s.toList

/-! ## The settings of an environment -/

section Environment

variable {env : Environment}

/-- The key of an environment: the second where the first says nothing. -/
theorem key_ofEnvironment :
    (ofEnvironment env).key
      = ofText? (if Blank env.key then env.projectKey else env.key) := by
  show ofText? ((nonempty? env.key).or env.projectKey) = _
  by_cases h : Blank env.key
  · rw [nonempty?_of_blank h, if_pos h]
    rfl
  · obtain ⟨s, hs, hne⟩ := exists_of_not_blank h
    rw [nonempty?_of_ne_empty hs hne, if_neg h, hs]
    rfl

/-- No address is given. -/
theorem url_ofEnvironment_of_blank (h : Blank env.url)
    (hproject : Blank env.projectUrl) : (ofEnvironment env).url = .null := by
  unfold ofEnvironment
  dsimp only
  rw [nonempty?_of_blank h, nonempty?_of_blank hproject]

/-- The address that is given. -/
theorem url_ofEnvironment_of_url {url : String} (h : env.url = some url)
    (hne : url ≠ "") : (ofEnvironment env).url = .text url := by
  unfold ofEnvironment
  dsimp only
  rw [nonempty?_of_ne_empty h hne]

/-- The address of a hosted project, where no other is given. -/
theorem url_ofEnvironment_of_projectUrl {s : String} (h : Blank env.url)
    (hs : env.projectUrl = some s) (hne : s ≠ "") :
    (ofEnvironment env).url = .text (projectUrl s) := by
  unfold ofEnvironment
  dsimp only
  rw [nonempty?_of_blank h, nonempty?_of_ne_empty hs hne]

/-- **The address of an environment** that gives one. -/
theorem exists_url_ofEnvironment
    (h : ¬ (Blank env.url ∧ Blank env.projectUrl)) :
    ∃ url, (ofEnvironment env).url = .text url ∧ url ≠ ""
      ∧ (¬ Blank env.url → env.url = some url)
      ∧ (Blank env.url → ∃ base n, env.projectUrl = some (base ++ slashes n)
        ∧ base.toList.getLast? ≠ some '/' ∧ url = base ++ "/rest/v1") := by
  by_cases hblank : Blank env.url
  · obtain ⟨s, hs, hne⟩ := exists_of_not_blank fun hp => h ⟨hblank, hp⟩
    obtain ⟨base, n, rfl, hlast, hurl⟩ := exists_projectUrl_eq s
    refine ⟨_, url_ofEnvironment_of_projectUrl hblank hs hne, ?_,
      absurd hblank, fun _ => ⟨base, n, hs, hlast, hurl⟩⟩
    rw [hurl]
    simp
  · obtain ⟨url, hurl, hne⟩ := exists_of_not_blank hblank
    exact ⟨url, url_ofEnvironment_of_url hurl hne, hne, fun _ => hurl,
      fun h => absurd h hblank⟩

/-- **Slashes behind the address of a project** change nothing, unless there
is no address but them. -/
theorem ofEnvironment_append_slashes {s : String}
    (hs : env.projectUrl = some s) (hne : ¬ (Blank env.url ∧ s = ""))
    (n : Nat) :
    ofEnvironment { env with projectUrl := some (s ++ slashes n) }
      = ofEnvironment env := by
  have hurl : (ofEnvironment
      { env with projectUrl := some (s ++ slashes n) }).url
        = (ofEnvironment env).url := by
    by_cases hblank : Blank env.url
    · have hs' : s ≠ "" := fun h => hne ⟨hblank, h⟩
      have hlonger : s ++ slashes n ≠ "" := by simp [hs']
      rw [url_ofEnvironment_of_projectUrl hblank hs hs',
        ← projectUrl_append_slashes s n]
      exact url_ofEnvironment_of_projectUrl hblank rfl hlonger
    · obtain ⟨url, hurl, hne⟩ := exists_of_not_blank hblank
      rw [url_ofEnvironment_of_url hurl hne]
      exact url_ofEnvironment_of_url hurl hne
  show (⟨_, _, _⟩ : Settings) = ⟨_, _, _⟩
  exact congrArg (fun url => (⟨url, _, _⟩ : Settings)) hurl

/-- **The settings of a hosted project**, where its address is the one that
counts. -/
theorem ofProject_ofEnvironment {s : String} (h : Blank env.url)
    (hs : env.projectUrl = some s) (hne : s ≠ "") :
    ofProject (.text s)
        (ofText? (if Blank env.key then env.projectKey else env.key))
        (.text (env.schema.getD "public"))
      = .ok (ofEnvironment env) := by
  rw [← key_ofEnvironment]
  show Except.ok (⟨.text (projectUrl s), _, _⟩ : Settings) = .ok _
  rw [← url_ofEnvironment_of_projectUrl h hs hne]
  rfl

end Environment

/-! ## Connecting -/

/-- The headers for a key that may say nothing. -/
theorem headers_ofText? (key : Option String) :
    headers (ofText? key)
      = [("Accept", .text "application/json"),
          ("Content-Type", .text "application/json")]
        ++ if Blank key then [] else
          [("apikey", .text (key.getD "")),
            ("Authorization", .text ("Bearer " ++ key.getD ""))] := by
  unfold headers
  by_cases h : Blank key
  · have hfalse : ¬ (ofText? key).isTruthy = true :=
      fun htrue => isTruthy_ofText?_iff.mp htrue h
    rw [if_pos h, if_neg hfalse]
  · obtain ⟨k, rfl, -⟩ := exists_of_not_blank h
    rw [if_neg h, if_pos (isTruthy_ofText?_iff.mpr h)]
    rfl

/-- Without an address nothing is created. -/
theorem connect_of_url_null (make : ClientMaker) {s : Settings}
    (h : s.url = .null) : s.connect make = Run.fail .noAddress := by
  unfold connect
  rw [h]
  rfl

/-- **With an address one client is created**, and an adapter put around
it. -/
theorem connect_of_url_text (make : ClientMaker) {s : Settings} {url : String}
    (h : s.url = .text url) (hne : url ≠ "") :
    s.connect make
      = ⟨[.connected (.text url) s.schema (headers s.key)],
          [.creating (.text url) s.schema],
          Backend.wrap (make (.text url) s.schema (headers s.key))⟩ := by
  have htrue : (Value.text url).isTruthy = true := bne_iff_ne.mpr hne
  unfold connect
  rw [h, htrue]
  rfl

/-- Connecting by an environment without an address. -/
theorem connect_ofEnvironment_of_blank (make : ClientMaker)
    {env : Environment} (h : Blank env.url ∧ Blank env.projectUrl) :
    (ofEnvironment env).connect make = Run.fail .noAddress :=
  connect_of_url_null make (url_ofEnvironment_of_blank h.1 h.2)

/-- **Connecting by an environment with an address.** -/
theorem exists_connect_ofEnvironment (make : ClientMaker) {env : Environment}
    (h : ¬ (Blank env.url ∧ Blank env.projectUrl)) :
    let schema : Value := .text (env.schema.getD "public")
    let key := headers (ofText?
      (if Blank env.key then env.projectKey else env.key))
    ∃ url, (ofEnvironment env).connect make
        = ⟨[.connected (.text url) schema key],
          [.creating (.text url) schema],
          Backend.wrap (make (.text url) schema key)⟩
      ∧ (¬ Blank env.url → env.url = some url)
      ∧ (Blank env.url → ∃ base n, env.projectUrl = some (base ++ slashes n)
        ∧ base.toList.getLast? ≠ some '/' ∧ url = base ++ "/rest/v1") := by
  obtain ⟨url, hurl, hne, hform⟩ := exists_url_ofEnvironment h
  refine ⟨url, ?_, hform⟩
  rw [connect_of_url_text make hurl hne, key_ofEnvironment]
  rfl

/-- A handle whose source can be called is put into an adapter that asks
it by its source. -/
theorem exists_wrap_of_source {h : Handle}
    (hsource : h.access .source = .callable) :
    ∃ found, Backend.wrap h = .ok (.adapted ⟨h, .source, found⟩) :=
  ⟨if_pos hsource, Backend.wrap_of_accessor? (if_pos hsource)⟩

/-- **An environment decides what comes of connecting by it**, where a client
gives builders by its source.

* There is a fault exactly if both addresses say nothing; it is that there is
  no address, and no client is created.
* Otherwise one client is created, and the backend is the adapter around it.
  Its address is the first, as it is, if that says something, and else the
  second up to the slashes at its end, followed by a path. Its schema is the
  one that is set, an empty one too, or the usual one. Its headers hold the
  key, and the key as a bearer's, if the key chosen says something.
* Slashes behind the address of a project change nothing, unless there is
  no address but them.
* Where that address is the one that counts, the settings are those of the
  project with the same key and schema. -/
theorem connects_as_environment_says (make : ClientMaker)
    (hmake : ∀ url schema headers,
      (make url schema headers).access .source = .callable)
    (env : Environment) :
    let settings := ofEnvironment env
    let run := settings.connect make
    let key := if Blank env.key then env.projectKey else env.key
    let schema := env.schema.getD "public"
    let headers : List (String × Value) :=
      [("Accept", .text "application/json"),
        ("Content-Type", .text "application/json")]
      ++ if Blank key then [] else
        [("apikey", .text (key.getD "")),
          ("Authorization", .text ("Bearer " ++ key.getD ""))]
    ((∃ f, run.result = .error f) ↔ Blank env.url ∧ Blank env.projectUrl)
      ∧ (∀ f, run.result = .error f → run = Run.fail .noAddress)
      ∧ (∀ b, run.result = .ok b → ∃ url,
        (∃ found, b = .adapted
            ⟨make (.text url) (.text schema) headers, .source, found⟩)
          ∧ run.entries = [.connected (.text url) (.text schema) headers]
          ∧ (¬ Blank env.url → env.url = some url)
          ∧ (Blank env.url → ∃ base n,
            env.projectUrl = some (base ++ slashes n)
              ∧ base.toList.getLast? ≠ some '/' ∧ url = base ++ "/rest/v1"))
      ∧ (∀ s n, env.projectUrl = some s → ¬ (Blank env.url ∧ s = "") →
        ofEnvironment { env with projectUrl := some (s ++ slashes n) }
          = settings)
      ∧ ∀ s, Blank env.url → env.projectUrl = some s → s ≠ "" →
        ofProject (.text s) (ofText? key) (.text schema) = .ok settings := by
  intro settings run key schema headers
  by_cases h : Blank env.url ∧ Blank env.projectUrl
  · have hrun : run = Run.fail .noAddress :=
      connect_ofEnvironment_of_blank make h
    rw [hrun]
    refine ⟨iff_of_true ⟨_, rfl⟩ h, fun _ _ => rfl, fun b hb => (nomatch hb),
      fun s n hs hne => ofEnvironment_append_slashes hs hne n,
      fun s => ofProject_ofEnvironment⟩
  · obtain ⟨url, hrun, hform⟩ := exists_connect_ofEnvironment make h
    obtain ⟨found, hwrap⟩ := exists_wrap_of_source
      (hmake (.text url) (.text schema) headers)
    replace hrun : run = _ := hrun
    rw [headers_ofText?, hwrap] at hrun
    rw [hrun]
    refine ⟨iff_of_false (fun ⟨f, hf⟩ => nomatch hf) h,
      fun f hf => (nomatch hf), fun b hb => ?_,
      fun s n hs hne => ofEnvironment_append_slashes hs hne n,
      fun s => ofProject_ofEnvironment⟩
    exact ⟨url, ⟨found, (Except.ok.inj hb).symm⟩, rfl, hform⟩

/-- A maker whose clients have either accessor. -/
def syncClients : ClientMaker := fun _ _ _ => {
  typeName := "SyncPostgrestClient"
  fullName := "SyncPostgrestClient"
  home := "postgrest._sync.client"
  access := fun _ => .callable
  isClient := true }

/-- An environment with two empty variables, the address of a project that
ends in slashes, its key, and an empty schema. -/
theorem connects_as_environment_says_of_project :
    let s := "https://a.b//"
    let env : Environment := ⟨some "", some s, some "", some "k", some ""⟩
    (∀ url schema headers,
        (syncClients url schema headers).access .source = .callable)
      ∧ Blank env.url ∧ env.projectUrl = some s ∧ s ≠ ""
      ∧ ((ofEnvironment env).connect syncClients).entries
        = [.connected (.text "https://a.b/rest/v1") (.text "")
          [("Accept", .text "application/json"),
            ("Content-Type", .text "application/json"),
            ("apikey", .text "k"), ("Authorization", .text "Bearer k")]]
      ∧ ofEnvironment { env with projectUrl := some (s ++ slashes 3) }
        = ofEnvironment env
      ∧ ofProject (.text s) (.text "k") (.text "")
        = .ok (ofEnvironment env) := by
  intro s env
  have hmake : ∀ url schema headers,
      (syncClients url schema headers).access .source = .callable :=
    fun _ _ _ => rfl
  obtain ⟨-, -, -, hslashes, hproject⟩ :=
    connects_as_environment_says syncClients hmake env
  exact ⟨hmake, rfl, rfl, by decide, by decide, hslashes s 3 rfl (by decide),
    hproject s rfl rfl (by decide)⟩

end Settings

end DocFilter
