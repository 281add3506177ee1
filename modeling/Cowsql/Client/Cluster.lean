import Cowsql.Connector.Attempt
import Cowsql.Protocol.Frames

/-!
# The cluster client

`Client` of `client.go`: one protocol, and one call per method, each with request and response
messages of its own.  `Leader` and `Cluster` wrap their errors; `Assign`, `Transfer`, `Remove`,
`Weight` and `Describe` return them as they are.  The calls whose answer is an empty response
share one body, `Client.callEmpty`.

On a server that answers in order (`Serves`), a method with an empty answer writes its request,
reads one response and leaves a protocol serving the rest.  `Add` is two calls unless the node
is to be a spare: it adds the node, which joins as a spare, then assigns it its role; so an
`Add` whose `Assign` fails leaves the node in the cluster as a spare.
-/

namespace Cowsql

/-- `Spare`, the role of a node that neither replicates nor votes. -/
def roleSpare : Int := 2

/-- `ClusterFormatV1`. -/
def clusterFormatV1 : UInt64 := 1

/-- `RequestDescribeFormatV0`. -/
def requestDescribeFormatV0 : UInt64 := 0

/-- `NodeMetadata`. -/
structure NodeMetadata where
  failureDomain : UInt64
  weight : UInt64
  deriving DecidableEq, Repr

/-- `File`: a database file of a dump. -/
structure DumpFile where
  name : String
  data : List UInt8
  deriving DecidableEq, Repr

/-- The decoders of `response.go` the client calls besides those of `Codec`. -/
structure ClusterCodec where
  /-- `DecodeNodes`. -/
  decodeNodes : Message → Except GoError (List NodeInfo)
  /-- `DecodeMetadata`: the failure domain and the weight. -/
  decodeMetadata : Message → Except GoError (UInt64 × UInt64)
  /-- `DecodeFiles`, as the names and contents `Files.Next` returns one after another. -/
  decodeFiles : Message → Except GoError (List (String × List UInt8))

/-- `uint64(role)`: the role's two's complement bits. -/
def roleBits (role : Int) : UInt64 := UInt64.ofNat (role % 18446744073709551616).toNat

/-- `Client`: the protocol of its connection. -/
structure Client where
  protocol : Protocol

section Client

/- `maxEmptyReads` stands for `messageMaxConsecutiveEmptyReads`. -/
variable (maxEmptyReads : Nat) (codec : Codec) (decoders : ClusterCodec)

/-- The methods whose answer is an empty response: encode into a new 4096-byte request, call
with a new 4096-byte response, then `DecodeEmpty`; errors are returned as they are. -/
def Client.callEmpty (c : Client) (encode : Message → Message) : Option GoError × Client :=
  let x := c.protocol.call maxEmptyReads (encode (Message.init 4096 (by decide)))
    (Message.init 4096 (by decide))
  match x.result with
  | .error e => (some e, ⟨x.protocol⟩)
  | .ok () =>
    match codec.decodeEmpty x.response with
    | .error e => (some e, ⟨x.protocol⟩)
    | .ok () => (none, ⟨x.protocol⟩)

/-- `Client.Assign`. -/
def Client.assign (c : Client) (id : UInt64) (role : Int) : Option GoError × Client :=
  c.callEmpty maxEmptyReads codec fun m => m.encodeAssign id (roleBits role)

/-- `Client.Transfer`. -/
def Client.transfer (c : Client) (id : UInt64) : Option GoError × Client :=
  c.callEmpty maxEmptyReads codec fun m => m.encodeTransfer id

/-- `Client.Remove`. -/
def Client.remove (c : Client) (id : UInt64) : Option GoError × Client :=
  c.callEmpty maxEmptyReads codec fun m => m.encodeRemove id

/-- `Client.Weight`. -/
def Client.weight (c : Client) (weight : UInt64) : Option GoError × Client :=
  c.callEmpty maxEmptyReads codec fun m => m.encodeWeight weight

/-- `Client.Add`: add the node, then, unless it is to be a spare (the role every node is added
with), assign it its role. -/
def Client.add (c : Client) (node : NodeInfo) : Option GoError × Client :=
  match c.callEmpty maxEmptyReads codec fun m => m.encodeAdd codec node.id node.address with
  | (some e, c) => (some e, c)
  | (none, c) =>
    if node.role = roleSpare then (none, c) else c.assign maxEmptyReads codec node.id node.role

/-- `Client.Leader`: the leader's id and address, with a 16-byte request and a 512-byte
response. -/
def Client.leader (c : Client) : Except GoError NodeInfo × Client :=
  let x := c.protocol.call maxEmptyReads (Message.init 16 (by decide)).encodeLeader
    (Message.init 512 (by decide))
  match x.result with
  | .error e => (.error (.wrap "failed to send Leader request" e), ⟨x.protocol⟩)
  | .ok () =>
    match codec.decodeNode x.response with
    | .error e => (.error (.wrap "failed to parse Node response" e), ⟨x.protocol⟩)
    | .ok (id, address) => (.ok ⟨id, address, 0⟩, ⟨x.protocol⟩)

/-- `Client.Cluster`: every node of the cluster. -/
def Client.cluster (c : Client) : Except GoError (List NodeInfo) × Client :=
  let x := c.protocol.call maxEmptyReads
    ((Message.init 16 (by decide)).encodeCluster clusterFormatV1) (Message.init 512 (by decide))
  match x.result with
  | .error e => (.error (.wrap "failed to send Cluster request" e), ⟨x.protocol⟩)
  | .ok () =>
    match decoders.decodeNodes x.response with
    | .error e => (.error (.wrap "failed to parse Node response" e), ⟨x.protocol⟩)
    | .ok servers => (.ok servers, ⟨x.protocol⟩)

/-- `Client.Describe`: the metadata of the node the client is connected to. -/
def Client.describe (c : Client) : Except GoError NodeMetadata × Client :=
  let x := c.protocol.call maxEmptyReads
    ((Message.init 4096 (by decide)).encodeDescribe requestDescribeFormatV0)
    (Message.init 4096 (by decide))
  match x.result with
  | .error e => (.error e, ⟨x.protocol⟩)
  | .ok () =>
    match decoders.decodeMetadata x.response with
    | .error e => (.error e, ⟨x.protocol⟩)
    | .ok (domain, weight) => (.ok ⟨domain, weight⟩, ⟨x.protocol⟩)

/-- `Client.Dump`: the files `Files.Next` returns before the first with no name. -/
def Client.dump (c : Client) (dbname : String) : Except GoError (List DumpFile) × Client :=
  let x := c.protocol.call maxEmptyReads ((Message.init 16 (by decide)).encodeDump codec dbname)
    (Message.init 512 (by decide))
  match x.result with
  | .error e => (.error (.wrap "failed to send dump request" e), ⟨x.protocol⟩)
  | .ok () =>
    match decoders.decodeFiles x.response with
    | .error e => (.error (.wrap "failed to parse files response" e), ⟨x.protocol⟩)
    | .ok files =>
      (.ok ((files.takeWhile fun f => f.1 ≠ "").map fun f => ⟨f.1, f.2⟩), ⟨x.protocol⟩)

/-- **Step lemma.** On a protocol serving `f :: rest`, with `f` an empty response, a method
with an empty answer writes its request, returns nil and leaves a protocol serving `rest`. -/
theorem Client.callEmpty_serves (c : Client) (encode : Message → Message) {f : Frame}
    {rest : List Frame} (h : Serves maxEmptyReads c.protocol (f :: rest))
    (hd : ∀ m : Message, m.frame = f → codec.decodeEmpty m = .ok ()) :
    (c.callEmpty maxEmptyReads codec encode).1 = none ∧
      Serves maxEmptyReads (c.callEmpty maxEmptyReads codec encode).2.protocol rest ∧
      (c.callEmpty maxEmptyReads codec encode).2.protocol.conn.sent =
        c.protocol.conn.sent ++ (encode (Message.init 4096 (by decide))).frameBytes := by
  obtain ⟨h1, h2, h3⟩ := h.call maxEmptyReads (encode (Message.init 4096 (by decide)))
    (Message.init 4096 (by decide))
  simp only [Client.callEmpty, h1, hd _ h2, true_and]
  exact ⟨h3, Protocol.call_sent_of_ok maxEmptyReads h1⟩

/-- `Add` writes the `Add` request and, unless the node is to be a spare, the `Assign` of its
role after it; it reads one empty response for each, returns nil and leaves a protocol serving
what follows. -/
theorem Client.add_serves (c : Client) (node : NodeInfo) {f₁ f₂ : Frame} {rest : List Frame}
    (h : Serves maxEmptyReads c.protocol
      (f₁ :: if node.role = roleSpare then rest else f₂ :: rest))
    (hd₁ : ∀ m : Message, m.frame = f₁ → codec.decodeEmpty m = .ok ())
    (hd₂ : ∀ m : Message, m.frame = f₂ → codec.decodeEmpty m = .ok ()) :
    (c.add maxEmptyReads codec node).1 = none ∧
      Serves maxEmptyReads (c.add maxEmptyReads codec node).2.protocol rest ∧
      (c.add maxEmptyReads codec node).2.protocol.conn.sent = c.protocol.conn.sent ++
        ((Message.init 4096 (by decide)).encodeAdd codec node.id node.address).frameBytes ++
        (if node.role = roleSpare then []
          else ((Message.init 4096 (by decide)).encodeAssign node.id
            (roleBits node.role)).frameBytes) := by
  obtain ⟨h1, h2, h3⟩ := c.callEmpty_serves maxEmptyReads codec
    (fun m => m.encodeAdd codec node.id node.address) h hd₁
  unfold Client.add
  rcases hx : c.callEmpty maxEmptyReads codec fun m => m.encodeAdd codec node.id node.address
    with ⟨_ | e, c₁⟩
  · rw [hx] at h2 h3
    dsimp only at h2 h3 ⊢
    split_ifs at h2 ⊢
    · exact ⟨rfl, h2, by rw [h3, List.append_nil]⟩
    · obtain ⟨k1, k2, k3⟩ := c₁.callEmpty_serves maxEmptyReads codec _ h2 hd₂
      exact ⟨k1, k2, by rw [Client.assign, k3, h3]⟩
  · rw [hx] at h1; cases h1

/-- Adding a voter to a server that answers both of its requests with an empty response. -/
theorem add_serves_voter :
    ((⟨framesProtocol [⟨0, 8, 0, 0, []⟩, ⟨0, 8, 0, 0, []⟩]⟩ : Client).add 1 simpleCodec
        ⟨2, "b", 0⟩).1 = none ∧
      Serves 1 ((⟨framesProtocol [⟨0, 8, 0, 0, []⟩, ⟨0, 8, 0, 0, []⟩]⟩ : Client).add 1
        simpleCodec ⟨2, "b", 0⟩).2.protocol [] ∧
      ((⟨framesProtocol [⟨0, 8, 0, 0, []⟩, ⟨0, 8, 0, 0, []⟩]⟩ : Client).add 1 simpleCodec
        ⟨2, "b", 0⟩).2.protocol.conn.sent =
        (framesProtocol [⟨0, 8, 0, 0, []⟩, ⟨0, 8, 0, 0, []⟩]).conn.sent ++
          ((Message.init 4096 (by decide)).encodeAdd simpleCodec 2 "b").frameBytes ++
          (if (0 : Int) = roleSpare then []
            else ((Message.init 4096 (by decide)).encodeAssign 2 (roleBits 0)).frameBytes) :=
  Client.add_serves 1 simpleCodec ⟨_⟩ ⟨2, "b", 0⟩ (framesProtocol_serves _ (by decide))
    (fun _ h => if_pos (congrArg Frame.mtype h)) (fun _ h => if_pos (congrArg Frame.mtype h))

end Client

end Cowsql
