import EsdcFactory.Lib.Text
import EsdcFactory.Lib.Urllib
import EsdcFactory.Lib.Calendar
import EsdcFactory.Lib.Timestamp
import EsdcFactory.Lib.Decimal
import EsdcFactory.Lib.Fold
import EsdcFactory.Lib.Outcome
import EsdcFactory.Lib.BashArith
import EsdcFactory.Lib.Subnet
import EsdcFactory.Lib.SqlIdentifier
import EsdcFactory.Lib.Escapes
import EsdcFactory.Lib.Printf
import EsdcFactory.Lib.Retry
import EsdcFactory.Lib.Rounds
import EsdcFactory.Lib.Json
import EsdcFactory.Lib.JsonLayout
import EsdcFactory.Lib.Sed
import EsdcFactory.Cfgdb.RestServer
import EsdcFactory.Cfgdb.RestGate
import EsdcFactory.Cfgdb.Discovery
import EsdcFactory.Cfgdb.RestStatus
import EsdcFactory.Cfgdb.RestRejects
import EsdcFactory.Zabbix.Partitions
import EsdcFactory.Zabbix.Retention
import EsdcFactory.Zabbix.Routing
import EsdcFactory.Zabbix.Deprovision
import EsdcFactory.Zabbix.DiskMonitor
import EsdcFactory.Zabbix.KvmIostat
import EsdcFactory.Zabbix.KvmReplies
import EsdcFactory.Zabbix.KvmRates
import EsdcFactory.Zabbix.VmDisks
import EsdcFactory.Zabbix.PoolDisks
import EsdcFactory.Zabbix.DiskBatches
import EsdcFactory.Build.Lock
import EsdcFactory.Installer.Prompts
import EsdcFactory.Installer.Globals
import EsdcFactory.Installer.Address
import EsdcFactory.Installer.NetGrammar
import EsdcFactory.Installer.ConfigWriter
import EsdcFactory.Installer.ConfigFacts
import EsdcFactory.Installer.MainLoop
import EsdcFactory.Installer.PassFacts
import EsdcFactory.Installer.RunFacts
import EsdcFactory.Installer.MacFacts
import EsdcFactory.Installer.Opnsense
import EsdcFactory.Installer.MacSwap
import EsdcFactory.Installer.Readable
import EsdcFactory.Installer.Networks
import EsdcFactory.Installer.Netmask
import EsdcFactory.Installer.UsableAddresses
import EsdcFactory.Installer.NodeLoop
import EsdcFactory.Lib.Undo
import EsdcFactory.Lib.AddMissing
import EsdcFactory.Lib.WordSearch
import EsdcFactory.Lib.Ere
import EsdcFactory.Lib.Traced
import EsdcFactory.Installer.Interfaces
import EsdcFactory.Installer.InterfaceFacts
import EsdcFactory.Installer.NicPrompts
import EsdcFactory.Installer.Teardown
import EsdcFactory.Installer.InterfaceRuns
import EsdcFactory.Installer.VnicLinks
import EsdcFactory.Installer.AddressCalls
import EsdcFactory.Installer.QuadCalls
import EsdcFactory.Installer.ServiceAddresses
import EsdcFactory.Installer.Gateway
import EsdcFactory.Installer.Answers
import EsdcFactory.Installer.AnswersFile
import EsdcFactory.Installer.AnswerOrder
import EsdcFactory.Installer.PromptLoops
import EsdcFactory.Installer.AddressLoops
import EsdcFactory.Installer.Choices
import EsdcFactory.Installer.Datasets
import EsdcFactory.Installer.Pager
import EsdcFactory.Installer.PasswordPrompt
import EsdcFactory.Headnode.Manifest
import EsdcFactory.Headnode.RouterTemplate
import EsdcFactory.Headnode.ConfigXml
import EsdcFactory.Headnode.PasswordStore
import EsdcFactory.Lib.BashSource
import EsdcFactory.Installer.SourcedConfig
import EsdcFactory.Installer.StorageLayout
import EsdcFactory.Lib.Interrupt
import EsdcFactory.Headnode.Setup
import EsdcFactory.Headnode.SetupFacts
import EsdcFactory.Headnode.Credentials
import EsdcFactory.Headnode.CameUp
import EsdcFactory.Headnode.Rerun
import EsdcFactory.Computenode.Settings
import EsdcFactory.Guest.Mtu
import EsdcFactory.Guest.AuthorizedKeys
import EsdcFactory.Guest.Gitlab
import EsdcFactory.Lib.Tally
import EsdcFactory.Lib.Words
import EsdcFactory.Zabbix.Bhiostat
import EsdcFactory.Zabbix.BhiostatRuns
import EsdcFactory.Zabbix.DiskPipeline
import EsdcFactory.Lib.Interleave
import EsdcFactory.Computenode.Registration
import EsdcFactory.Computenode.Cluster
import EsdcFactory.Computenode.FromHeadnode
import EsdcFactory.Lib.Batches
import EsdcFactory.Zabbix.KvmMonitor
import EsdcFactory.Zabbix.KvmTotals
import EsdcFactory.Zabbix.CpuMonitor
import EsdcFactory.Zabbix.ForeignKeys
import EsdcFactory.Zabbix.TemplateXml
import EsdcFactory.Zabbix.NetworkMonitor
