import ConsulLookup.Operation.Descriptor

/-! The twenty-seven built-in Consul read operations. -/

namespace ConsulLookup.Catalogue

/-- The keyword arguments of a method that answers blocking queries. -/
def blocking : List String := ["index", "wait", "dc", "token"]

/-- The keyword arguments of a blocking read that also takes a consistency mode. -/
def blockingRead : List String := blocking ++ ["consistency"]

/-- The built-in operations, in the order they are listed. -/
def operations : List Descriptor :=
  [.make "acl.get" "acl.token.read" Schema.aclGet ["acl"] ["id"] ["token"] []
    "Read an ACL token",
   .make "acl.list" "acl.token.list" Schema.base ["acls"] [] ["token"] []
    "List ACL tokens",
   .make "agent.members" "agent.members" Schema.base ["members"] [] ["wan"] []
    "Members the agent sees in the cluster gossip pool",
   .make "agent.self" "agent.self" Schema.base ["self"] [] [] []
    "Agent configuration and member information",
   .make "agent.check.list" "agent.checks" Schema.base ["agent.checks"] [] [] []
    "Checks registered with the local agent",
   .make "agent.service.list" "agent.services" Schema.base ["agent.services"] [] [] []
    "Services registered with the local agent",
   .make "catalog.datacenters" "catalog.datacenters" Schema.base ["datacenters"] [] [] []
    "Known datacenters",
   .make "catalog.node.list" "catalog.nodes" Schema.nodeList ["node.list", "nodes"] []
    (blockingRead ++ ["near"]) [] "Nodes in a datacenter",
   .make "catalog.node.services" "catalog.node" Schema.node ["node.services"] ["node"]
    blockingRead [] "Services provided by a node",
   .make "catalog.service.list" "catalog.services" Schema.base ["service.list", "services"] []
    blockingRead [] "Services in a datacenter",
   .make "catalog.service.nodes" "catalog.service" Schema.serviceNodes ["service.nodes"]
    ["service"] (blockingRead ++ ["tag", "near"]) [] "Nodes providing a service",
   .make "event.list" "event.list" Schema.eventList ["events"] [] ["name", "index", "wait"] []
    "Most recent user events",
   .make "health.node" "health.node" Schema.node [] ["node"] blocking []
    "Health checks of a node",
   .make "health.checks" "health.checks" Schema.service [] ["service"] (blocking ++ ["near"]) []
    "Health checks of a service",
   .make "health.service" "health.service" Schema.healthService [] ["service"]
    (blocking ++ ["passing", "tag", "near"]) [] "Nodes and health info of a service",
   .make "health.state" "health.state" Schema.healthState [] ["state"] (blocking ++ ["near"]) []
    "Checks in a given state",
   .make "kv.get" "kv.get" Schema.kvGet ["kv"] ["key"] (blockingRead ++ ["recurse", "separator"])
    [] "Key/value pair(s)",
   .make "kv.keys" "kv.get" Schema.kvKeys ["keys"] ["key"] (blockingRead ++ ["keys", "separator"])
    [("keys", .bool true)] "Keys under a prefix",
   .make "query.list" "query.list" Schema.base ["queries"] [] ["dc", "token"] []
    "Prepared queries",
   .make "query.get" "query.get" Schema.query [] ["query"] ["dc", "token"] []
    "A prepared query definition",
   .make "query.execute" "query.execute" Schema.queryExecute [] ["query"]
    ["dc", "token", "near", "limit"] [] "Execute a prepared query",
   .make "query.explain" "query.explain" Schema.query [] ["query"] ["dc", "token"] []
    "Explain a prepared query",
   .make "session.get" "session.info" Schema.sessionGet ["session"] ["id"] blockingRead []
    "A session",
   .make "session.node" "session.node" Schema.node [] ["node"] blockingRead []
    "Active sessions of a node",
   .make "session.list" "session.list" Schema.base ["sessions"] [] blockingRead []
    "Active sessions",
   .make "status.leader" "status.leader" Schema.base ["leader"] [] [] []
    "Current Raft leader",
   .make "status.peers" "status.peers" Schema.base ["peers"] [] [] []
    "Raft peers"]

end ConsulLookup.Catalogue
