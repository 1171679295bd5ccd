import MysqlRouter.Libc.Sys
import MysqlRouter.Libc.Strings
import MysqlRouter.Libc.Strtol
import MysqlRouter.Routing.SocketOperations
import MysqlRouter.Routing.AccessMode
import MysqlRouter.Routing.Proof.Dial
import MysqlRouter.Routing.Proof.GetMysqlSocket
import MysqlRouter.Routing.Proof.Footprint
import MysqlRouter.MetadataCache.PluginConfig
import MysqlRouter.MetadataCache.Proof.OptionTtl
import MysqlRouter.MetadataCache.Proof.BootstrapServers
