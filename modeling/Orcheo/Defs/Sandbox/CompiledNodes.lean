import Orcheo.Defs.Graph.Faithful
import Orcheo.Defs.Sandbox.Isolation

/-! Code nodes that the compiler has made in the sandbox: a credential can only be asked for by
what a template yields. -/

namespace Orcheo.Sandbox

open Graph

/-- The inputs of the sandbox are independent of the vault exactly if no injected text asks for
a credential in the state, or if there are none. -/
theorem sandbox_isolated_iff (rt : TextRuntime) (spec : CodeNodeSpec)
    (policy : NonSerialisablePolicy) (state : State) (config : Option (List (Text × StateValue))) :
    Isolated rt spec policy state config ↔
      injectedReferences rt spec state = [] ∨ Withheld rt spec policy state config := by
  constructor
  · intro isolated
    by_contra neither
    obtain ⟨asks, open_⟩ := not_or.mp neither
    obtain ⟨reference, asked⟩ := List.exists_mem_of_ne_nil _ asks
    obtain ⟨vault, grants⟩ := exists_granting rt (injectedReferences rt spec state)
    have supported : ∀ reference ∈ injectedReferences rt spec state, reference.Supported rt :=
      fun reference asked => by_contra fun unsupported =>
        open_ (.payload reference asked unsupported)
    obtain ⟨envelope, marshalled⟩ := marshalled_of_granted
      (fun reference asked => grants reference asked (supported reference asked)) open_
    obtain ⟨decodes, _⟩ := marshalInputs_ok_iff.mp ⟨envelope, isolated vault [] envelope marshalled⟩
    obtain ⟨text, member, asked⟩ := List.mem_flatMap.mp asked
    obtain ⟨value, given⟩ := (decodes text member).granted asked
    exact resolve_empty reference value given
  · rintro (quiet | withheld) vault vault' envelope marshalled
    · have same : decodeFields rt (resolveCredentialReference rt (some vault)) state
          (injectedFields spec) =
            decodeFields rt (resolveCredentialReference rt (some vault')) state
              (injectedFields spec) :=
        decodeFields_congr (injectedFields spec) fun text member =>
          decodeStringValue_congr fun reference asked => by
            have all : reference ∈ injectedReferences rt spec state :=
              List.mem_flatMap.mpr ⟨text, member, asked⟩
            rw [quiet] at all
            cases all
      rw [marshalInputs, same] at marshalled
      exact marshalled
    · exact absurd marshalled (not_marshalled_of_withheld withheld vault envelope)

/-! A script whose code node passes a message on. -/

def relayLines : List String := ["class Relay(CodeNode):", "    message: str",
  "    def run(self, state, config):", "        return \x7b\"message\": self.message\x7d",
  "def orcheo_workflow():", "    graph = StateGraph(State)",
  "    graph.add_node(\"relay\", Relay(message=\"\x7b\x7binputs.message\x7d\x7d\"))",
  "    graph.set_entry_point(\"relay\")", "    return graph"]

def relaySource : String := "\n".intercalate relayLines

def relayClass : ClassDef where
  name := "Relay"
  bases := [.name codenodeBase]
  body := [.annAssign (.name "message") (.name "str") none, .function
    { lineno := 3
      signature := [.node .other []]
      body := [⟨4, 4, 8, 40, .node (.ret true)
        [.node .other [.node .other [], .node (.attr "message") [.node (.name "self" true) []]]]⟩] }]

def relayModule : Module :=
  [.classDef relayClass, .functionDef { name := entrypointName, body :=
    [.assign [.name "graph"] (.call (.name "StateGraph") [.name "State"] []),
      .expr (.call (.attr (.name "graph") "add_node")
        [.str "relay", .call (.name "Relay") []
          [(some "message", .str "\x7b\x7binputs.message\x7d\x7d")]] []),
      .expr (.call (.attr (.name "graph") "set_entry_point") [.str "relay"] []),
      .ret (some (.name "graph"))] }]

def relayHost : Host := { agentHost with
  splitlines := fun _ => relayLines
  dedent := fun line => String.ofList (line.toList.dropWhile (· = ' ')) }

def relaySpec : CodeNodeSpec where
  id := "relay"
  config := [("message", .str "\x7b\x7binputs.message\x7d\x7d")]
  injected := ["message"]
  body := "return \x7b\"message\": self.message\x7d"

theorem compiled_relay : compileWorkflowToIr relayHost relaySource relayModule true =
    .ok (.mk currentSchemaVersion defaultStateRef "relay" [.code relaySpec] [] []) := by
  with_unfolding_all rfl

def relayRuntime : TextRuntime where
  isspace := Char.isWhitespace
  lower text := text.map Char.toLower
  showInt n := (toString n).toList
  showFloat bits := (toString bits.toNat).toList
  showKey _ := []
  parseUuid _ := none
  attr _ _ := none

def relayState : State :=
  [("inputs".toList, .dict [(.str "message".toList, .str "[[openai]]".toList)])]

def relayVault (secret : String) : Vault := [⟨1, "openai".toList, .secret, secret.toList, none⟩]

theorem relay_inputs (secret : String) :
    marshalInputs relayRuntime (some (relayVault secret)) relaySpec .drop relayState none =
      .ok ⟨relayState, [], [("message".toList, .str secret.toList)]⟩ := by
  rfl

theorem relay_not_isolated : ¬ ∀ (host : Host) (source : String) (m : Module) (ir : GraphIR)
    (spec : CodeNodeSpec), compileWorkflowToIr host source m true = .ok ir →
      .code spec ∈ ir.nodes → ∀ (rt : TextRuntime) (policy : NonSerialisablePolicy)
        (state : State) (config : Option (List (Text × StateValue))),
        Isolated rt spec policy state config := by
  intro h
  have isolated := h relayHost relaySource relayModule _ relaySpec compiled_relay
    List.mem_cons_self relayRuntime .drop relayState none
  have same := isolated (relayVault "sk-1") (relayVault "sk-2") _ (relay_inputs "sk-1")
  rw [relay_inputs] at same
  have injected := congrArg InputsEnvelope.configurable (Except.ok.inj same)
  simp at injected

end Orcheo.Sandbox
