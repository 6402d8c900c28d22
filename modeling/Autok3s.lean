import Autok3s.NodeRegistry
import Autok3s.Provider
import Autok3s.Launch
import Autok3s.LaunchInvariant
import Autok3s.Paging
import Autok3s.SecurityGroup
import Autok3s.Teardown
import Autok3s.Join
import Autok3s.Preflight
import Autok3s.Tags
import Autok3s.Network
import Autok3s.Sync
import Autok3s.SshNode
import Autok3s.DefaultGroup
import Autok3s.ClusterSummary
