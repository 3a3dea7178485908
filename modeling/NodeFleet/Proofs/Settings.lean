/-
  What a configuration takes from its variables.

  * `Environment.Says`, `Unset`, `Garbled`: a variable has a text, nothing, or bytes that are none.
  * `Environment.Extends`, `Dotenv.extends_loadFrom`: a file of settings leaves every text alone.
  * `Chain.Named`: the chain that a text names.
  * `Config.Describes`: a configuration that has what every text says and the default of every
    other variable; `ofEnvironment_eq_ok_iff`: it is the only one.
  * `load_takes_texts`: a variable that is set to a text is never overruled by a default.
-/
import NodeFleet.Config
import NodeFleet.Proofs.NodeList
import Mathlib.Tactic.MkIffOfInductiveProp

namespace NodeFleet

/-! ## Variables -/

namespace Environment

section
variable (env env' : Environment) (name : String)

/-- A variable is set to a text. -/
def Says (text : String) : Prop := env.lookup name = some (Utf8.encode text)

def Unset : Prop := env.lookup name = none

/-- A variable is set to bytes that are no text. -/
def Garbled : Prop := ∃ bs, env.lookup name = some bs ∧ ∀ text, bs ≠ Utf8.encode text

/-- What is read of the text of a variable, or a default if there is no text. -/
def Gives {α : Type} (Reads : String → α → Prop) (default v : α) : Prop :=
  (∃ text, env.Says name text ∧ Reads text v) ∨ (env.Unset name ∨ env.Garbled name) ∧ v = default

/-- Every variable is as it was, or has got a text that had none. -/
def Extends : Prop :=
  ∀ name, env'.lookup name = env.lookup name ∨
    (env.Unset name ∨ env.Garbled name) ∧ ∃ text, env'.Says name text

end

variable {env env' env'' : Environment} {name text : String}

theorem text?_eq_some_iff : env.text? name = some text ↔ env.Says name text := by
  simp only [text?, Says, Option.bind_eq_some_iff, Utf8.decode?_eq_some_iff, exists_eq_right]

theorem text?_eq_none_iff : env.text? name = none ↔ env.Unset name ∨ env.Garbled name := by
  rw [text?, Unset, Garbled]
  cases env.lookup name with
  | none => simp
  | some bs => simp [Option.eq_none_iff_forall_ne_some, Utf8.decode?_eq_some_iff]

theorem gives_iff {α : Type} {Reads : String → α → Prop} {default v : α} :
    env.Gives name Reads default v ↔ (env.text? name).elim (v = default) (Reads · v) := by
  simp only [Gives, ← text?_eq_some_iff, ← text?_eq_none_iff]
  cases env.text? name <;> simp

theorem Gives.of_text {α : Type} {Reads : String → α → Prop} {default v : α}
    (h : env.Gives name Reads default v) (htext : env.Says name text) : Reads text v := by
  rwa [gives_iff, text?_eq_some_iff.2 htext] at h

theorem Gives.of_none {α : Type} {Reads : String → α → Prop} {default v : α}
    (h : env.Gives name Reads default v) (hnone : env.Unset name ∨ env.Garbled name) :
    v = default := by
  rwa [gives_iff, text?_eq_none_iff.2 hnone] at h

theorem lookup_set_self (env : Environment) (name text : String) :
    (env.set name text).Says name text := by
  rw [Says, set, List.lookup_cons_self]

theorem lookup_set_of_ne {key : String} (h : name ≠ key) :
    (env.set key text).lookup name = env.lookup name := by
  rw [set, List.lookup_cons, beq_false_of_ne h]
  exact lookup_filter (fun _ => by simpa using h) env

theorem Extends.refl (env : Environment) : env.Extends env := fun _ => Or.inl rfl

theorem Extends.keeps (h : env.Extends env') (htext : env.Says name text) :
    env'.Says name text := by
  rcases h name with h | ⟨hnone, -⟩
  · exact h.trans htext
  · rw [← text?_eq_none_iff, text?_eq_some_iff.2 htext] at hnone
    cases hnone

theorem Extends.trans (h : env.Extends env') (h' : env'.Extends env'') : env.Extends env'' := by
  intro name
  rcases h name with h | ⟨hnone, text, htext⟩
  · rw [Unset, Garbled, ← h]
    exact h' name
  · exact Or.inr ⟨hnone, text, h'.keeps htext⟩

theorem extends_set (h : env.text? name = none) : env.Extends (env.set name text) := by
  intro other
  by_cases hname : other = name
  · subst hname
    exact Or.inr ⟨text?_eq_none_iff.1 h, text, lookup_set_self env other text⟩
  · exact Or.inl (lookup_set_of_ne hname)

end Environment

/-! ## Files of settings -/

namespace Dotenv

theorem extends_loadLines (env : Environment) (known : List (String × String))
    (lines : List (Option (List Char))) : env.Extends (loadLines env known lines) := by
  induction env, known, lines using loadLines.induct with
  | case1 env | case2 env =>
    rw [loadLines]
    exact .refl env
  | case3 env known line rest hline =>
    rw [loadLines, hline]
    exact .refl env
  | case4 env known line rest hline ih =>
    rw [loadLines, hline]
    exact ih
  | case5 env known line rest key value hline env' ih =>
    rw [loadLines, hline]
    refine .trans ?_ ih
    show env.Extends (if (env.text? key).isSome then env else env.set key value)
    split_ifs with hkey
    · exact .refl env
    · exact Environment.extends_set (by simpa using hkey)

theorem extends_loadFrom (settings : Option String) (env : Environment) :
    env.Extends (loadFrom settings env) := by
  cases settings with
  | none => exact .refl env
  | some file => exact extends_loadLines env [] _

end Dotenv

/-! ## Chains -/

namespace Chain

/-- A text names a chain, whatever the case of its letters and the blanks around it. -/
def Named (c : Chain) (text : String) : Prop :=
  ∃ word, Text.Trims text.toList word ∧
    (Text.lower (String.ofList word) = c.name ∨
      c = .ethereum ∧ Text.lower (String.ofList word) = "mainnet")

theorem ofName?_eq_some_iff {name : String} {c : Chain} :
    ofName? name = some c ↔ name = c.name := by
  constructor
  · intro h
    have hfound : (c.name == name) = true := by simpa using List.find?_some h
    exact (beq_iff_eq.1 hfound).symm
  · rintro rfl
    cases c <;> decide

theorem parse_eq_ok_iff {text : String} {c : Chain} : parse text = .ok c ↔ c.Named text := by
  simp only [Named, Text.trims_iff, exists_eq_left']
  rw [← show Text.trim text = String.ofList (Text.trimChars text.toList) from rfl, parse]
  generalize Text.lower (Text.trim text) = name
  split_ifs with hmain
  · subst hmain
    cases c <;> simp [name]
  · simp only [hmain, and_false, or_false, ← ofName?_eq_some_iff]
    cases ofName? name <;> simp

end Chain

/-! ## Configurations -/

namespace Config

private theorem bind_eq_ok_iff {ε α β : Type} {x : Except ε α} {f : α → Except ε β} {b : β} :
    x >>= f = .ok b ↔ ∃ a, x = .ok a ∧ f a = .ok b := by
  cases x with
  | error e => simp [bind, Except.bind]
  | ok a => simp [bind, Except.bind]

/-- A configuration has what the texts of the variables say, and a default where there is none. -/
@[mk_iff]
structure Describes (env : Environment) (c : Config) : Prop where
  chain : env.Gives "ETHEREUM_CHAIN" (fun text chain => chain.Named text) .ethereum c.chain
  nodes : ∃ list, env.Says "ETHEREUM_RPC_NODES" list ∧ NodeEntry.parseList list = .ok c.nodes
  broadcastNodes : env.Gives "ETHEREUM_BROADCAST_NODES"
    (fun list nodes => NodeEntry.parseList list = .ok nodes) c.nodes c.broadcastNodes
  explorerKey : env.Gives "EXPLORER_API_KEY"
    (fun key v => v = if Text.isBlankText key then none else some key) none c.explorerKey
  feedUrl : env.Gives "GAS_PRICE_FEED_URL"
    (fun url v => v = if Text.isBlankText url then none else some url) none c.feedUrl
  logLevel : env.Gives "LOG_LEVEL" (fun level v => v = level) "info" c.logLevel

variable {env : Environment} {c : Config}

/-- A configuration is read variable by variable. -/
private theorem ofEnvironment_eq (env : Environment) : ofEnvironment env =
    ((env.text? "ETHEREUM_CHAIN").elim (.ok .ethereum) Chain.parse) >>= fun chain =>
    ((env.text? "ETHEREUM_RPC_NODES").elim (.error .nodesUnset) NodeEntry.parseList) >>=
      fun nodes =>
    ((env.text? "ETHEREUM_BROADCAST_NODES").elim (.ok nodes) NodeEntry.parseList) >>=
      fun broadcastNodes =>
    .ok ⟨chain, nodes, broadcastNodes, notBlank? env "EXPLORER_API_KEY",
      notBlank? env "GAS_PRICE_FEED_URL", (env.text? "LOG_LEVEL").getD "info"⟩ := by
  rw [ofEnvironment]
  generalize env.text? "ETHEREUM_CHAIN" = chain, env.text? "ETHEREUM_RPC_NODES" = nodes,
    env.text? "ETHEREUM_BROADCAST_NODES" = broadcastNodes
  cases chain <;> cases nodes <;> cases broadcastNodes <;> simp only [Option.elim] <;> rfl

private theorem elim_eq_ok_iff {ε α : Type} {text? : Option String} {read : String → Except ε α}
    {default v : α} : text?.elim (.ok default) read = .ok v ↔
      text?.elim (v = default) (read · = .ok v) := by
  cases text? <;> simp [eq_comm]

theorem ofEnvironment_eq_ok_iff : ofEnvironment env = .ok c ↔ Describes env c := by
  have hnodes {nodes : List NodeEntry} :
      (env.text? "ETHEREUM_RPC_NODES").elim (.error .nodesUnset) NodeEntry.parseList = .ok nodes ↔
        ∃ list, env.text? "ETHEREUM_RPC_NODES" = some list ∧
          NodeEntry.parseList list = .ok nodes := by
    cases env.text? "ETHEREUM_RPC_NODES" <;> simp
  have hkey {v : Option String} {name : String} : v = notBlank? env name ↔
      (env.text? name).elim (v = none)
        fun key => v = if Text.isBlankText key then none else some key := by
    rw [notBlank?]
    cases env.text? name with
    | none => simp
    | some key => cases h : Text.isBlankText key <;> simp [Option.filter, h]
  have hlevel {v : String} {level? : Option String} : v = level?.getD "info" ↔
      level?.elim (v = "info") (v = ·) := by
    cases level? <;> simp
  obtain ⟨chain, nodes, broadcastNodes, explorerKey, feedUrl, logLevel⟩ := c
  simp only [describes_iff, Environment.gives_iff, ← Environment.text?_eq_some_iff,
    ← Chain.parse_eq_ok_iff, ofEnvironment_eq, bind_eq_ok_iff, elim_eq_ok_iff, ← hkey, ← hlevel,
    hnodes]
  constructor
  · rintro ⟨_, hchain, _, hnodes, _, hbroadcast, ⟨⟩⟩
    exact ⟨hchain, hnodes, hbroadcast, rfl, rfl, rfl⟩
  · rintro ⟨hchain, hnodes, hbroadcast, rfl, rfl, rfl⟩
    exact ⟨_, hchain, _, hnodes, _, hbroadcast, rfl⟩

theorem names_of_parseList {list : String} {nodes : List NodeEntry}
    (h : NodeEntry.parseList list = .ok nodes) : nodes ≠ [] ∧ (nodes.map (·.name)).Nodup := by
  obtain ⟨is, -, hne, hspells, hnodup⟩ := NodeEntry.parseList_eq_ok_iff.1 h
  refine ⟨?_, hnodup⟩
  rintro rfl
  exact hne (List.forall₂_nil_right_iff.1 hspells)

/-- **What is set to a text is never overruled by a default.** A configuration has what every
    variable says that is set to a text, by itself or in a file of settings that finds no text
    there, and the default of every other variable; where a text that counts cannot be read there
    is none. So it has the chain and the nodes to send to that the environment names in a text.
    A default stands for a variable that is unset, and for one that is set to bytes that are no
    text. Neither list of nodes is empty or has a name twice. -/
theorem load_takes_texts (settings : Option String) (env : Environment) :
    env.Extends (Dotenv.loadFrom settings env) ∧
    (∀ c, load settings env = .ok c ↔ Describes (Dotenv.loadFrom settings env) c) ∧
    ∀ c, load settings env = .ok c →
      (∀ text, env.Says "ETHEREUM_CHAIN" text → c.chain.Named text) ∧
      (∀ list, env.Says "ETHEREUM_BROADCAST_NODES" list →
        NodeEntry.parseList list = .ok c.broadcastNodes) ∧
      ((Dotenv.loadFrom settings env).Unset "ETHEREUM_CHAIN" ∨
        (Dotenv.loadFrom settings env).Garbled "ETHEREUM_CHAIN" → c.chain = .ethereum) ∧
      ((Dotenv.loadFrom settings env).Unset "ETHEREUM_BROADCAST_NODES" ∨
        (Dotenv.loadFrom settings env).Garbled "ETHEREUM_BROADCAST_NODES" →
          c.broadcastNodes = c.nodes) ∧
      (c.nodes ≠ [] ∧ (c.nodes.map (·.name)).Nodup) ∧
      c.broadcastNodes ≠ [] ∧ (c.broadcastNodes.map (·.name)).Nodup := by
  have hextends := Dotenv.extends_loadFrom settings env
  refine ⟨hextends, fun c => ofEnvironment_eq_ok_iff, fun c h => ?_⟩
  have hc := ofEnvironment_eq_ok_iff.1 h
  obtain ⟨list, -, hnodes⟩ := hc.nodes
  refine ⟨fun text htext => hc.chain.of_text (hextends.keeps htext),
    fun list hlist => hc.broadcastNodes.of_text (hextends.keeps hlist), hc.chain.of_none,
    hc.broadcastNodes.of_none, names_of_parseList hnodes, ?_⟩
  rcases hc.broadcastNodes with ⟨list, -, hsent⟩ | ⟨-, heq⟩
  · exact names_of_parseList hsent
  · rw [heq]
    exact names_of_parseList hnodes

/-- A chain is named with blanks and capitals, and a file does not change it. -/
theorem load_takes_texts_of_file :
    let env : Environment := [("ETHEREUM_CHAIN", Utf8.encode " BSC-Test\n")]
    let settings := "ETHEREUM_CHAIN=tomo\nETHEREUM_RPC_NODES=a=x\n"
    ∃ c, load (some settings) env = .ok c ∧ c.chain = .bscTest ∧ c.nodes = [⟨"a", "x"⟩] ∧
      c.broadcastNodes = c.nodes ∧ (c.broadcastNodes.map (·.name)).Nodup := by
  intro env settings
  have htext : env.Says "ETHEREUM_CHAIN" " BSC-Test\n" := rfl
  have hload : Dotenv.loadFrom (some settings) env = env.set "ETHEREUM_RPC_NODES" "a=x" := by
    have hlines : Dotenv.lines (Dotenv.withoutMark settings.toList) =
        [some "ETHEREUM_CHAIN=tomo".toList, some "ETHEREUM_RPC_NODES=a=x".toList] := by
      decide +kernel
    have hchain : Dotenv.readLine env [] "ETHEREUM_CHAIN=tomo".toList =
        some (some ("ETHEREUM_CHAIN", "tomo")) := rfl
    have hnodes : Dotenv.readLine env [("ETHEREUM_CHAIN", "tomo")]
        "ETHEREUM_RPC_NODES=a=x".toList = some (some ("ETHEREUM_RPC_NODES", "a=x")) := rfl
    rw [Dotenv.loadFrom, Option.elim, Dotenv.load, hlines, Dotenv.loadLines, hchain]
    dsimp only
    rw [Environment.text?_eq_some_iff.2 htext, Option.isSome_some, if_pos rfl, Dotenv.loadLines,
      hnodes]
    rfl
  have hnamed : Chain.Named .bscTest " BSC-Test\n" :=
    ⟨"BSC-Test".toList, Text.trims_iff.2 (by decide), Or.inl (by decide +kernel)⟩
  let c : Config := ⟨.bscTest, [⟨"a", "x"⟩], [⟨"a", "x"⟩], none, none, "info"⟩
  obtain ⟨-, hdescribes, hhas⟩ := load_takes_texts (some settings) env
  have hc : load (some settings) env = .ok c := by
    rw [hdescribes, hload]
    exact ⟨Or.inl ⟨_, rfl, hnamed⟩, ⟨"a=x", rfl, rfl⟩, Or.inr ⟨Or.inl rfl, rfl⟩,
      Or.inr ⟨Or.inl rfl, rfl⟩, Or.inr ⟨Or.inl rfl, rfl⟩, Or.inr ⟨Or.inl rfl, rfl⟩⟩
  obtain ⟨-, -, -, hdefault, -, -, hnodup⟩ := hhas c hc
  exact ⟨c, hc, rfl, rfl, hdefault (hload ▸ Or.inl rfl), hnodup⟩

/-- Bytes that are no text stand where a chain is named, and the default chain is taken. -/
theorem load_drops_garbled_chain :
    let env : Environment := [("ETHEREUM_CHAIN", [0xff]), ("ETHEREUM_RPC_NODES", Utf8.encode "a=x")]
    env.lookup "ETHEREUM_CHAIN" = some [0xff] ∧ (∀ text, [0xff] ≠ Utf8.encode text) ∧
      ∃ c, load none env = .ok c ∧ c.chain = .ethereum := by
  intro env
  have hgarbled : ∀ text, [0xff] ≠ Utf8.encode text := by
    have hnone : Utf8.decode? [0xff] = none := by decide +kernel
    intro text h
    rw [Utf8.decode?_eq_some_iff.2 h] at hnone
    cases hnone
  have hunset {name : String} (h : env.lookup name = none) : env.Unset name ∨ env.Garbled name :=
    Or.inl h
  refine ⟨rfl, hgarbled, ⟨.ethereum, [⟨"a", "x"⟩], [⟨"a", "x"⟩], none, none, "info"⟩, ?_, rfl⟩
  exact ofEnvironment_eq_ok_iff.2 ⟨Or.inr ⟨Or.inr ⟨_, rfl, hgarbled⟩, rfl⟩, ⟨"a=x", rfl, rfl⟩,
    Or.inr ⟨hunset rfl, rfl⟩, Or.inr ⟨hunset rfl, rfl⟩, Or.inr ⟨hunset rfl, rfl⟩,
    Or.inr ⟨hunset rfl, rfl⟩⟩

end Config

end NodeFleet
